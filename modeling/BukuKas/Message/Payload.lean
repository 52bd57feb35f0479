import BukuKas.Calendar.Timestamp
import BukuKas.Json.Value
import BukuKas.Message.Basic

/-!
# Messages in JSON

A message comes as a JSON object.  The sender must be given and be a text; the kind is one of six
words; the text, the address of a file and the time may be left out or null.  Everything that is
wrong is reported, in the order of the fields, and fields that are not known are passed over.

## Main results

* `read_eq_ok_iff` : a payload is a message exactly when there is no complaint.
-/

namespace BukuKas

open Calendar (Instant)

/-- What is wrong with a payload. -/
inductive Complaint where
  /-- A field is missing. -/
  | missing (field : String)
  /-- A field is no text. -/
  | notText (field : String)
  /-- A field is none of the kinds of messages. -/
  | unknownKind (field : String)
  /-- A field is no time. -/
  | notTime (field : String)
  deriving DecidableEq, Repr

/-- The field that a complaint is about. -/
def Complaint.field : Complaint → String
  | missing field => field
  | notText field => field
  | unknownKind field => field
  | notTime field => field

namespace MessageKind

/-- The word for a kind. -/
def word : MessageKind → String
  | .text => "text"
  | .chat => "chat"
  | .audio => "audio"
  | .image => "image"
  | .document => "document"
  | .sticker => "sticker"

/-- All kinds in order. -/
def all : List MessageKind := [.text, .chat, .audio, .image, .document, .sticker]

/-- The kind of that word. -/
def ofWord? (s : String) : Option MessageKind := all.find? fun kind => kind.word == s

theorem ofWord?_word (kind : MessageKind) : ofWord? kind.word = some kind := by
  cases kind <;> decide

end MessageKind

namespace Payload

/-- A field that must be a text. -/
def readSender (members : List (String × Json)) : Except Complaint String :=
  match Json.field? members "from_number" with
  | none => .error (.missing "from_number")
  | some (.str s) => .ok s
  | some _ => .error (.notText "from_number")

/-- The field of the kind. -/
def readKind (members : List (String × Json)) : Except Complaint MessageKind :=
  match Json.field? members "message_type" with
  | none => .ok .chat
  | some (.str s) =>
    match MessageKind.ofWord? s with
    | some kind => .ok kind
    | none => .error (.unknownKind "message_type")
  | some _ => .error (.unknownKind "message_type")

/-- A field that is a text, if it is anything. -/
def readText (members : List (String × Json)) (name : String) : Except Complaint (Option String) :=
  match Json.field? members name with
  | none => .ok none
  | some .null => .ok none
  | some (.str s) => .ok (some s)
  | some _ => .error (.notText name)

/-- The instant that a value means. -/
def instant? : Json → Option Instant
  | .str s => Instant.ofText? s
  | .int n => Instant.ofCount? n
  | .real x => Instant.ofDouble? x
  | _ => none

/-- The field of the time. -/
def readTime (members : List (String × Json)) : Except Complaint (Option Instant) :=
  match Json.field? members "timestamp" with
  | none => .ok none
  | some .null => .ok none
  | some v =>
    match instant? v with
    | some i => .ok (some i)
    | none => .error (.notTime "timestamp")

/-- The complaint about a field, if there is one. -/
def complaintOf {α : Type} : Except Complaint α → List Complaint
  | .ok _ => []
  | .error complaint => [complaint]

/-- All complaints about a payload, in the order of its fields. -/
def complaints (members : List (String × Json)) : List Complaint :=
  complaintOf (readSender members) ++ complaintOf (readKind members) ++
    complaintOf (readText members "text") ++ complaintOf (readText members "media_url") ++
    complaintOf (readTime members)

/-- The message that the members of an object are, or all complaints about them. -/
def read (members : List (String × Json)) : Except (List Complaint) Message :=
  match readSender members, readKind members, readText members "text",
    readText members "media_url", readTime members with
  | .ok sender, .ok kind, .ok text, .ok _, .ok sentAt =>
    .ok { sender := sender, kind := kind, text := text, sentAt := sentAt }
  | _, _, _, _, _ => .error (complaints members)

theorem read_eq_ok_iff {members : List (String × Json)} :
    (∃ m, read members = .ok m) ↔ complaints members = [] := by
  unfold read complaints
  cases readSender members <;> cases readKind members <;> cases readText members "text" <;>
    cases readText members "media_url" <;> cases readTime members <;> simp [complaintOf]

end Payload

end BukuKas
