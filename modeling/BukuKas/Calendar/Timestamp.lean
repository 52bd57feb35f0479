import BukuKas.Calendar.Instant
import BukuKas.Number.Numeral

/-!
# Timestamps

The texts and numbers by which a message says when it was sent.  A text is a date and a time with an
optional offset, or a date alone, or a number; without an offset the clock is that of universal
time.  A number counts seconds since the beginning of 1970, or milliseconds when it is large.
-/

namespace BukuKas.Calendar.Instant

open BukuKas.Number (Binary64 decimal? natOfDigits takeDigits? takeSign twoTo)

/-! ## Numbers -/

/-- The instant so many seconds after the beginning of 1970, in the years 1 to 9999. -/
def ofSeconds? (seconds : Int) : Option Instant :=
  if seconds < -62135596800 || 253402300799 < seconds then none else some ⟨seconds⟩

/-- Whole numbers up to this size count seconds and larger ones count milliseconds. -/
def secondsLimit : Int := 20000000000

/-- The instant that a whole number of seconds or milliseconds means. -/
def ofCount? (n : Int) : Option Instant :=
  ofSeconds? (if n.natAbs ≤ secondsLimit.natAbs then n else n / 1000)

/-- The instant that a number of seconds or milliseconds with a fraction means.  A fraction of a
second is rounded to the nearest millionth, so that one close to a second makes a whole second. -/
def ofDouble? (x : Binary64) : Option Instant :=
  let seconds := if Binary64.ofInt secondsLimit < x.abs then x / 1000 else x
  seconds.floor?.bind fun whole =>
    let millionths := (seconds - .ofInt whole) * 1000000
    ofSeconds? (if millionths < .ofRatio 1999999 2 then whole else whole + 1)

/-! ## Texts -/

/-- A date at the head of the text. -/
def date? (cs : List Char) : Option (Date × List Char) := do
  let (year, cs) ← takeDigits? 4 cs
  let '-' :: cs := cs | none
  let (month, cs) ← takeDigits? 2 cs
  let '-' :: cs := cs | none
  let (day, cs) ← takeDigits? 2 cs
  let date ← Date.ofParts? year month day
  return (date, cs)

/-- Hours and minutes, as a second of the day. -/
def hourMinute? (cs : List Char) : Option (Nat × List Char) := do
  let (hour, cs) ← takeDigits? 2 cs
  let ':' :: cs := cs | none
  let (minute, cs) ← takeDigits? 2 cs
  if hour < 24 && minute < 60 then some (hour * 3600 + minute * 60, cs) else none

/-- A time at the head of the text: hours and minutes, then perhaps seconds, then perhaps a
fraction, which is dropped. -/
def time? (cs : List Char) : Option (Nat × List Char) := do
  let (start, cs) ← hourMinute? cs
  match cs with
  | ':' :: rest =>
    let (second, rest) ← takeDigits? 2 rest
    if 60 ≤ second then none
    else
      match rest with
      | point :: more =>
        if point == '.' || point == ',' then
          let left := more.dropWhile Char.isDigit
          if left.length == more.length then none else some (start + second, left)
        else some (start + second, rest)
      | [] => some (start + second, [])
  | _ => some (start, cs)

/-- The offset that ends a text: nothing or `Z` for universal time, or hours and minutes. -/
def offset? : List Char → Option Int
  | [] => some 0
  | ['Z'] => some 0
  | ['z'] => some 0
  | sign :: cs =>
    if sign == '+' || sign == '-' || sign == '\u2212' then
      match takeDigits? 2 cs with
      | none => none
      | some (hour, rest) =>
        let rest := match rest with
          | ':' :: more => more
          | more => more
        match takeDigits? 2 rest with
        | some (minute, []) =>
          let size := hour * 3600 + minute * 60
          if minute < 60 && size < 86400 then some (if sign == '+' then size else -(size : Int))
          else none
        | _ => none
    else none

/-- A date and a time with an offset. -/
def dateTime? (cs : List Char) : Option Instant := do
  let (date, cs) ← date? cs
  let between :: cs := cs | none
  if between == 'T' || between == 't' || between == ' ' || between == '_' then
    let (second, cs) ← time? cs
    let offset ← offset? cs
    return .ofReading date second offset
  else none

/-- A numeral with an optional sign.  One with a point may have an exponent, and what stands before
its point must be a number of 63 bits. -/
def count? (cs : List Char) : Option Instant :=
  let (negative, cs) := takeSign cs
  let whole := cs.takeWhile Char.isDigit
  match cs.dropWhile Char.isDigit with
  | [] =>
    let size : Int := natOfDigits whole
    if whole.isEmpty then none else ofCount? (if negative then -size else size)
  | '.' :: _ =>
    if natOfDigits whole < twoTo 63 then
      (decimal? cs).bind fun x => ofDouble? (if negative then -x else x)
    else none
  | _ => none

/-- A date alone, meaning its beginning in universal time. -/
def midnight? (cs : List Char) : Option Instant :=
  match date? cs with
  | some (date, []) => some (.ofReading date 0 0)
  | _ => none

/-- The instant that a text means. -/
def ofText? (s : String) : Option Instant :=
  (dateTime? s.toList).or ((count? s.toList).or (midnight? s.toList))

end BukuKas.Calendar.Instant
