import BukuKas.Calendar.Instant
import BukuKas.Fault
import BukuKas.Text.Blank

/-!
# Time zones

A zone shifts the reading of the clock by an offset, which was another one before some
instants.  The local date of an instant is the civil date of its shifted reading; it exists
when both the universal and the shifted reading lie in the years 1 to 9999.

Zones are looked up by their names in a database, of which nothing is assumed here.  A name is
built like a path, and one that no path below the place of the zones can have is refused before
the database is asked.
-/

namespace BukuKas.Calendar

/-- A time zone: its offset from universal time in seconds, and the offsets that it had before,
each up to an instant. -/
structure Zone where
  /-- The offset in force. -/
  offset : Int
  /-- Earlier offsets with the instants at which they ended, the earliest first. -/
  earlier : List (Instant × Int)
  deriving DecidableEq

namespace Zone

/-- The offset at an instant. -/
def offsetAt (z : Zone) (i : Instant) : Int :=
  match z.earlier.find? fun past => i.seconds < past.1.seconds with
  | some past => past.2
  | none => z.offset

/-- The local date of an instant. -/
def dateOf? (z : Zone) (i : Instant) : Option Date :=
  match i.dateAt? 0 with
  | none => none
  | some _ => i.dateAt? (z.offsetAt i)

end Zone

/-- A database of time zones. -/
structure ZoneDatabase where
  /-- The zone that it has under a name. -/
  find? : String → Option Zone

namespace ZoneDatabase

/-! ## Names -/

/-- The parts of a path without the empty ones, those of one dot, and those that a later part
of two dots takes back; `done` are the parts before, the last one first. -/
def normalParts : (done : List (List Char)) → List (List Char) → List (List Char)
  | done, [] => done.reverse
  | done, part :: parts =>
    if part.isEmpty || part == ['.'] then normalParts done parts
    else if part == ['.', '.'] then
      match done with
      | [] => normalParts [part] parts
      | last :: before =>
        if last == ['.', '.'] then normalParts (part :: done) parts else normalParts before parts
    else normalParts (part :: done) parts

/-- A relative path in normal form, a dot when nothing is left. -/
def normalPath (cs : List Char) : List Char :=
  match normalParts [] (Text.splitAt '/' cs) with
  | [] => ['.']
  | part :: parts => ['/'].intercalate (part :: parts)

/-- Whether a relative path stays strictly below the place at which it begins. -/
def staysBelow (cs : List Char) : Bool :=
  match normalParts [] (['_'] :: Text.splitAt '/' cs) with
  | top :: _ :: _ => top == ['_']
  | _ => false

/-- The zone of that name. -/
def zone (zones : ZoneDatabase) (name : String) : Except Fault Zone :=
  let cs := name.toList
  if cs.head? == some '/' then .error (.absoluteZone name)
  else if normalPath cs != cs then .error (.unnormalizedZone name)
  else if !staysBelow cs then .error (.outsideZone name)
  else
    match zones.find? name with
    | some z => .ok z
    | none => .error (.unknownZone name)

/-- Some zones with their names: those of the archipelago, universal time, and a few of the
neighbours and of the furthest offsets. -/
def sample : List (String × Zone) := [
  ("Asia/Jakarta", ⟨25200, [(⟨-1451719200⟩, 25632), (⟨-1172906400⟩, 26400),
    (⟨-876641400⟩, 27000), (⟨-766054800⟩, 32400), (⟨-683883000⟩, 27000), (⟨-620812800⟩, 28800),
    (⟨-189415800⟩, 27000)]⟩),
  ("UTC", ⟨0, []⟩),
  ("Asia/Tokyo", ⟨32400, [(⟨-2587712400⟩, 33539), (⟨-683802000⟩, 32400), (⟨-672310800⟩, 36000),
    (⟨-654771600⟩, 32400), (⟨-640861200⟩, 36000), (⟨-620298000⟩, 32400), (⟨-609411600⟩, 36000),
    (⟨-588848400⟩, 32400), (⟨-577962000⟩, 36000)]⟩),
  ("Asia/Makassar", ⟨28800, [(⟨-1172908656⟩, 28656), (⟨-880272000⟩, 28800),
    (⟨-766054800⟩, 32400)]⟩),
  ("Asia/Jayapura", ⟨32400, [(⟨-1172913768⟩, 33768), (⟨-799491600⟩, 32400),
    (⟨-189423000⟩, 34200)]⟩),
  ("Asia/Kolkata", ⟨19800, [(⟨-3645237208⟩, 21208), (⟨-3155694800⟩, 21200),
    (⟨-2019705670⟩, 19270), (⟨-891581400⟩, 19800), (⟨-872058600⟩, 23400), (⟨-862637400⟩, 19800),
    (⟨-764145000⟩, 23400)]⟩),
  ("Pacific/Kiritimati", ⟨50400, [(⟨-2177415040⟩, -37760), (⟨307622400⟩, -38400),
    (⟨788868000⟩, -36000)]⟩),
  ("Etc/GMT+12", ⟨-43200, []⟩)]

/-- The database of these zones, for services that are set to one of them. -/
def ofSample : ZoneDatabase := ⟨fun name => sample.lookup name⟩

end ZoneDatabase

end BukuKas.Calendar
