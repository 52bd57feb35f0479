import BukuKas.Calendar.Instant
import BukuKas.Number.Numeral

/-!
# Standard forms of dates and times

Dates and instants as the standard for their interchange writes them.  A date is written with its
month and day, or with its week and perhaps the day of that week, and with or without hyphens.  A
time follows behind one character of any kind, with or without colons and as far as it is known, and
after it perhaps its offset from universal time.

Nothing but the length of the date tells where the time begins, so that length is found first.

## Main results

* `weekdayOf_firstMonday` : the first day of the first week is a Monday.
-/

namespace BukuKas.Calendar

open Number (natOfDigits takeDigits? tenTo)

/-! ## Weeks -/

/-- The number of the Monday of the week that holds the fourth of January, which is the first week
of the year. -/
def firstMonday (year : Nat) : Nat :=
  let fourth := Date.daysBeforeYear year + 4
  fourth - (fourth + 6) % 7

theorem weekdayOf_firstMonday (year : Nat) : (firstMonday year + 6) % 7 = 0 := by
  unfold firstMonday
  dsimp only
  omega

/-- The day of a week of a year, Monday being the first. -/
def Date.ofWeek? (year week day : Nat) : Option Date :=
  if 1 ≤ year && 1 ≤ week && 7 * week ≤ firstMonday (year + 1) - firstMonday year &&
      1 ≤ day && day ≤ 7 then
    ofNumber? (firstMonday year + 7 * (week - 1) + (day - 1))
  else none

/-! ## Dates -/

/-- The digit of the day of a week, Monday when none is written. -/
def weekDay? (hyphens : Bool) : List Char → Option Nat
  | [] => some 1
  | '-' :: cs => if hyphens then wholeDigit? cs else none
  | cs => if hyphens then none else wholeDigit? cs
where
  /-- A text of one digit. -/
  wholeDigit? (cs : List Char) : Option Nat :=
    match takeDigits? 1 cs with
    | some (day, []) => some day
    | _ => none

/-- The date in a week of a year. -/
def weekDate? (year : Nat) (hyphens : Bool) (cs : List Char) : Option Date := do
  let (week, cs) ← takeDigits? 2 cs
  let day ← weekDay? hyphens cs
  Date.ofWeek? year week day

/-- The date of a month and a day of a year. -/
def monthDate? (year : Nat) (hyphens : Bool) (cs : List Char) : Option Date := do
  let (month, cs) ← takeDigits? 2 cs
  let cs ← match hyphens, cs with
    | true, '-' :: cs => some cs
    | true, _ => none
    | false, cs => some cs
  let (day, []) ← takeDigits? 2 cs | none
  Date.ofParts? year month day

/-- The date that a text writes. -/
def Date.ofIso? (cs : List Char) : Option Date := do
  let (year, cs) ← takeDigits? 4 cs
  match cs with
  | '-' :: 'W' :: cs => weekDate? year true cs
  | 'W' :: cs => weekDate? year false cs
  | '-' :: cs => monthDate? year true cs
  | cs => monthDate? year false cs

/-- How many characters of a text are its date.  A week without hyphens may have one digit more than
the pairs of digits of a time, and a hyphen behind a week with hyphens begins a time when two
characters behind it there is a digit. -/
def dateLength (cs : List Char) : Nat :=
  if cs.length = 7 then 7
  else
    match cs.drop 4 with
    | '-' :: 'W' :: _ :: _ :: '-' :: _ :: c :: _ => if c.isDigit then 8 else 10
    | '-' :: 'W' :: _ :: _ :: '-' :: _ => 10
    | '-' :: 'W' :: _ => 8
    | '-' :: _ => 10
    | 'W' :: _ =>
      let run := 7 + ((cs.drop 7).takeWhile Char.isDigit).length
      if run < 9 then run else if run % 2 = 0 then 7 else 8
    | _ => 8

/-! ## Times -/

/-- What a clock shows: hours, minutes, seconds and millionths of a second. -/
structure ClockTime where
  hour : Nat
  minute : Nat := 0
  second : Nat := 0
  millionth : Nat := 0
  deriving DecidableEq, Repr

namespace ClockTime

/-- The millionths of a second since the beginning of the day. -/
def millionths (t : ClockTime) : Nat :=
  ((t.hour * 60 + t.minute) * 60 + t.second) * 1000000 + t.millionth

/-- Whether a clock can show it. -/
def isShown (t : ClockTime) : Bool := t.hour < 24 && t.minute < 60 && t.second < 60

/-- The fraction of a second in millionths; further digits are cut. -/
def fraction? (cs : List Char) : Option Nat :=
  if cs.isEmpty || !cs.all Char.isDigit then none
  else
    let kept := cs.take 6
    some (natOfDigits kept * tenTo (6 - kept.length))

/-- Adds the seconds at the head of a text, and perhaps their fraction. -/
def withSeconds? (t : ClockTime) (cs : List Char) : Option ClockTime := do
  let (second, cs) ← takeDigits? 2 cs
  match cs with
  | [] => some { t with second := second }
  | point :: cs =>
    if point == '.' || point == ',' then
      (fraction? cs).map fun millionth => { t with second := second, millionth := millionth }
    else none

/-- What a text of an hour, perhaps a minute and perhaps a second shows. -/
def ofIso? (cs : List Char) : Option ClockTime := do
  let (hour, cs) ← takeDigits? 2 cs
  match cs with
  | [] => some { hour := hour }
  | ':' :: cs =>
    let (minute, cs) ← takeDigits? 2 cs
    match cs with
    | [] => some { hour := hour, minute := minute }
    | ':' :: cs => withSeconds? { hour := hour, minute := minute } cs
    | _ => none
  | cs =>
    let (minute, cs) ← takeDigits? 2 cs
    match cs with
    | [] => some { hour := hour, minute := minute }
    | cs => withSeconds? { hour := hour, minute := minute } cs

end ClockTime

/-- The offset behind a time, in millionths of a second: universal time when nothing is written. -/
def isoOffset? : List Char → Option Int
  | [] => some 0
  | ['Z'] => some 0
  | sign :: cs =>
    if sign == '+' || sign == '-' then
      (ClockTime.ofIso? cs).bind fun t =>
        let size : Int := t.millionths
        if size < secondsPerDay * 1000000 then some (if sign == '-' then -size else size) else none
    else none

/-! ## Instants -/

/-- The instant at a time of a date with an offset. -/
def instantOnDate? (date : Date) (cs : List Char) : Option Instant := do
  let isMark (c : Char) : Bool := c == '+' || c == '-' || c == 'Z'
  let time ← ClockTime.ofIso? (cs.takeWhile (!isMark ·))
  let offset ← isoOffset? (cs.dropWhile (!isMark ·))
  if time.isShown then
    let midnight := Instant.ofReading date 0 0
    some ⟨midnight.seconds + ((time.millionths : Int) - offset) / 1000000⟩
  else none

/-- The instant that a text writes.  A date without a time means its beginning, and a time without
an offset is that of universal time. -/
def Instant.ofIso? (s : String) : Option Instant := do
  let cs := s.toList
  let length := dateLength cs
  let date ← Date.ofIso? (cs.take length)
  match cs.drop length with
  | [] => some (.ofReading date 0 0)
  | [_] => some (.ofReading date 0 0)
  | _ :: time => instantOnDate? date time

end BukuKas.Calendar
