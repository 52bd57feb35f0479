import BukuKas.Json.Value
import BukuKas.Number.Numeral

/-!
# Reading JSON

A reader of JSON texts that says at which character a text stops being JSON.  Besides the standard
it knows the words for the numbers that are not finite.  Each function reads what stands at the head
of a text and gives back the rest; a failure names the rest at which it happened, so that its place
is the number of characters before that rest.

Two things are refused although they are JSON: whole numbers of too many digits, and values that lie
too deep within others.  Whichever failure comes first ends the reading.

## Main results

* `readValue_nested` : a list or an object within too many others is refused at its first character.
-/

namespace BukuKas.Json

open BukuKas.Number (Binary64 maxDigits readDecimal readScientific natOfDigits)

/-- Where reading ends before its time. -/
inductive Stop where
  /-- The text stops being JSON at this rest. -/
  | badAt (rest : List Char)
  /-- A number is too long, or a value lies too deep. -/
  | excess

/-- A value and the rest of the text, or where reading ended. -/
abbrev Read (α : Type) := Except Stop (α × List Char)

/-- How many lists and objects may lie within each other. -/
def maxDepth : Nat := 960

/-- The white space of JSON. -/
def isSpace (c : Char) : Bool := c == ' ' || c == '\t' || c == '\n' || c == '\r'

/-- The text without the white space at its head. -/
def skip (cs : List Char) : List Char := cs.dropWhile isSpace

/-- The value of a hexadecimal digit. -/
def hexDigit? (c : Char) : Option Nat :=
  if c.isDigit then some (c.toNat - 48)
  else if 'a' ≤ c && c ≤ 'f' then some (c.toNat - 87)
  else if 'A' ≤ c && c ≤ 'F' then some (c.toNat - 55)
  else none

/-- The number that four hexadecimal digits write. -/
def hexCode? : List Char → Option (Nat × List Char)
  | a :: b :: c :: d :: cs => do
    let w ← hexDigit? a
    let x ← hexDigit? b
    let y ← hexDigit? c
    let z ← hexDigit? d
    return (((w * 16 + x) * 16 + y) * 16 + z, cs)
  | _ => none

/-- The character behind a single reverse solidus. -/
def escaped? : Char → Option Char
  | '"' => some '"'
  | '\\' => some '\\'
  | '/' => some '/'
  | 'b' => some '\x08'
  | 'f' => some '\x0C'
  | 'n' => some '\n'
  | 'r' => some '\r'
  | 't' => some '\t'
  | _ => none

/-- The character that a numeric escape means, two of them giving one character beyond the first
plane; the text begins behind the letter of the escape, and must not end with it.  Half of such a
pair that stands alone is read as the replacement character. -/
def codeEscape? (cs : List Char) : Option (Char × List Char) := do
  let (high, rest) ← hexCode? cs
  if rest.isEmpty then none
  else if 0xD800 ≤ high && high ≤ 0xDBFF then
    match rest with
    | '\\' :: 'u' :: more =>
      match hexCode? more with
      | some (low, after) =>
        if 0xDC00 ≤ low && low ≤ 0xDFFF && !after.isEmpty then
          return (Char.ofNat (0x10000 + (high - 0xD800) * 0x400 + (low - 0xDC00)), after)
        else return ('\uFFFD', rest)
      | none => return ('\uFFFD', rest)
    | _ => return ('\uFFFD', rest)
  else if 0xDC00 ≤ high && high ≤ 0xDFFF then return ('\uFFFD', rest)
  else return (Char.ofNat high, rest)

/-- The characters of a string up to its closing quotation mark.  The second argument is the text
from the opening mark on, where an unclosed string is reported. -/
def readString (fuel : Nat) (opening : List Char) (done : List Char) (cs : List Char) :
    Read String :=
  match fuel, cs with
  | 0, _ => .error (.badAt opening)
  | _, [] => .error (.badAt opening)
  | _, '"' :: rest => .ok (String.ofList done.reverse, rest)
  | _, ['\\'] => .error (.badAt opening)
  | fuel + 1, '\\' :: 'u' :: rest =>
    match codeEscape? rest with
    | some (c, after) => readString fuel opening (c :: done) after
    | none => .error (.badAt ('u' :: rest))
  | fuel + 1, '\\' :: c :: rest =>
    match escaped? c with
    | some e => readString fuel opening (e :: done) rest
    | none => .error (.badAt ('\\' :: c :: rest))
  | fuel + 1, c :: rest =>
    if c.toNat < 0x20 then .error (.badAt (c :: rest)) else readString fuel opening (c :: done) rest

/-- The digits of the fraction at the head of a text. -/
def fractionDigits : List Char → List Char
  | '.' :: cs => cs.takeWhile Char.isDigit
  | _ => []

/-- The exponent at the head of a text, with the number of its characters. -/
def exponentPart : List Char → Option (Int × Nat)
  | e :: cs =>
    if e == 'e' || e == 'E' then
      let (negative, digitsFrom, extra) := match cs with
        | '-' :: rest => (true, rest, 2)
        | '+' :: rest => (false, rest, 2)
        | rest => (false, rest, 1)
      let digits := digitsFrom.takeWhile Char.isDigit
      if digits.isEmpty then none
      else
        let size : Int := natOfDigits digits
        some (if negative then -size else size, extra + digits.length)
    else none
  | [] => none

/-- The number at the head of a text. -/
def readNumber (cs : List Char) : Read Json :=
  let (negative, body) := match cs with
    | '-' :: rest => (true, rest)
    | rest => (false, rest)
  let run := body.takeWhile Char.isDigit
  let whole := if run.head? == some '0' then ['0'] else run
  if whole.isEmpty then .error (.badAt cs)
  else
    let rest := body.drop whole.length
    let fraction := fractionDigits rest
    let rest := if fraction.isEmpty then rest else rest.drop (fraction.length + 1)
    let signed (x : Binary64) : Binary64 := if negative then -x else x
    match exponentPart rest with
    | some (exponent, length) =>
      .ok (.real (signed (readScientific whole fraction exponent)), rest.drop length)
    | none =>
      if !fraction.isEmpty then .ok (.real (signed (readDecimal whole fraction)), rest)
      else if maxDigits < whole.length then .error .excess
      else
        let size : Int := natOfDigits whole
        .ok (.int (if negative then -size else size), rest)

/-- The words that stand for a value. -/
def wordValues : List (String × Json) := [
  ("null", .null), ("true", .bool true), ("false", .bool false),
  ("NaN", .real .nan), ("Infinity", .real (.infinite false)), ("-Infinity", .real (.infinite true))]

/-- The word or the number at the head of a text. -/
def readPlain (cs : List Char) : Read Json :=
  match wordValues.find? fun w => w.1.toList.isPrefixOf cs with
  | some w => .ok (w.2, cs.drop w.1.length)
  | none => readNumber cs

mutual

/-- The value at the head of a text, within which so many lists and objects may lie in each
other. -/
def readValue (depth fuel : Nat) (cs : List Char) : Read Json :=
  match depth, fuel, cs with
  | _, 0, _ => .error (.badAt cs)
  | _, _, [] => .error (.badAt [])
  | _, fuel + 1, '"' :: rest =>
    match readString fuel ('"' :: rest) [] rest with
    | .ok (s, after) => .ok (.str s, after)
    | .error stop => .error stop
  | 0, _, '{' :: _ => .error .excess
  | depth + 1, fuel + 1, '{' :: rest =>
    match skip rest with
    | '}' :: after => .ok (.obj [], after)
    | more => readMembers depth fuel [] more
  | 0, _, '[' :: _ => .error .excess
  | depth + 1, fuel + 1, '[' :: rest =>
    match skip rest with
    | ']' :: after => .ok (.arr [], after)
    | more => readItems depth fuel [] more
  | _, _, cs => readPlain cs

/-- The items of an array up to its end. -/
def readItems (depth fuel : Nat) (done : List Json) (cs : List Char) : Read Json :=
  match fuel with
  | 0 => .error (.badAt cs)
  | fuel + 1 =>
    match readValue depth fuel cs with
    | .error stop => .error stop
    | .ok (v, rest) =>
      match skip rest with
      | ']' :: after => .ok (.arr (v :: done).reverse, after)
      | ',' :: after => readItems depth fuel (v :: done) (skip after)
      | more => .error (.badAt more)

/-- The members of an object up to its end. -/
def readMembers (depth fuel : Nat) (done : List (String × Json)) (cs : List Char) : Read Json :=
  match fuel, cs with
  | fuel + 1, '"' :: rest =>
    match readString fuel ('"' :: rest) [] rest with
    | .error stop => .error stop
    | .ok (name, after) =>
      match skip after with
      | ':' :: valueText =>
        match readValue depth fuel (skip valueText) with
        | .error stop => .error stop
        | .ok (v, rest) =>
          match skip rest with
          | '}' :: after => .ok (.obj ((name, v) :: done).reverse, after)
          | ',' :: after => readMembers depth fuel ((name, v) :: done) (skip after)
          | more => .error (.badAt more)
      | more => .error (.badAt more)
  | _, _ => .error (.badAt cs)

end

theorem readValue_nested (fuel : Nat) {c : Char} (h : c = '[' ∨ c = '{') (cs : List Char) :
    readValue 0 (fuel + 1) (c :: cs) = .error .excess := by
  rcases h with rfl | rfl <;> simp [readValue]

/-- Why a text is not read. -/
inductive Failure where
  /-- The text stops being JSON behind so many characters. -/
  | notJson (place : Nat)
  /-- A number is too long, or a value lies too deep. -/
  | excess
  deriving DecidableEq, Repr

/-- The value that a whole text writes, or why there is none. -/
def read (cs : List Char) : Except Failure Json :=
  let place (rest : List Char) : Nat := cs.length - rest.length
  match readValue maxDepth (2 * cs.length + 1) (skip cs) with
  | .error (.badAt rest) => .error (.notJson (place rest))
  | .error .excess => .error .excess
  | .ok (v, rest) =>
    match skip rest with
    | [] => .ok v
    | more => .error (.notJson (place more))

end BukuKas.Json
