import BukuKas.Number.Binary64
import BukuKas.Text.Digit

/-!
# Numerals

Reading whole numbers and decimals from digits of any script, and writing whole numbers with their
digits in groups of three.

A numeral of more than `maxDigits` digits is refused where a whole number is asked for; decimals
may have any length and are rounded once.

## Main results

* `natOfDigits_append_singleton` : a further digit multiplies by ten and adds its value.
* `flatten_groupsOfThree` : the groups hold the digits in order.
-/

namespace BukuKas.Number

open Text (digitValue digitValue? isDigit)

/-- The most digits that a numeral of a whole number may have, leading zeros counted. -/
def maxDigits : Nat := 4300

/-- The number that the digits write. -/
def natOfDigits (cs : List Char) : Nat :=
  cs.foldl (fun n c => 10 * n + digitValue c) 0

@[simp] theorem natOfDigits_nil : natOfDigits [] = 0 := rfl

theorem natOfDigits_append_singleton (cs : List Char) (c : Char) :
    natOfDigits (cs ++ [c]) = 10 * natOfDigits cs + digitValue c := by
  simp [natOfDigits]

/-- Digits, or else the number of digits when there are too many. -/
def readNat (cs : List Char) : Except Nat Nat :=
  if maxDigits < cs.length then .error cs.length else .ok (natOfDigits cs)

/-- The digits of a numeral in which single low lines may stand between digits. -/
def digitsBetweenLines? : List Char → Option (List Char)
  | [] => none
  | [c] => if isDigit c then some [c] else none
  | c :: d :: cs =>
    if !isDigit c then none
    else if d == '_' then (digitsBetweenLines? cs).map (c :: ·)
    else (digitsBetweenLines? (d :: cs)).map (c :: ·)

/-- A whole number with an optional sign, single low lines allowed between its digits. -/
def readInt? (cs : List Char) : Option Int :=
  let digits? (ds : List Char) : Option Nat :=
    (digitsBetweenLines? ds).bind fun found => (readNat found).toOption
  match cs with
  | '-' :: ds => (digits? ds).map fun n => -(n : Int)
  | '+' :: ds => (digits? ds).map Int.ofNat
  | ds => (digits? ds).map Int.ofNat

/-- The double nearest to the decimal with these digits before and after its point. -/
def readDecimal (whole fraction : List Char) : Binary64 :=
  .ofRatio (natOfDigits (whole ++ fraction)) (tenTo fraction.length)

/-- The double nearest to a decimal times a power of ten.  A power that leads beyond every double is
cut, since a further one would not change the result. -/
def readScientific (whole fraction : List Char) (exponent : Int) : Binary64 :=
  let digits : Int := natOfDigits (whole ++ fraction)
  let limit : Int := 2000 + (whole.length + fraction.length : Nat)
  let power := max (-limit) (min limit (exponent - fraction.length))
  if power < 0 then .ofRatio digits (tenTo power.natAbs)
  else .ofRatio (digits * (tenTo power.natAbs : Int)) 1

/-! ## Decimals in ASCII digits -/

/-- The number that so many ASCII digits write, and the rest of the text. -/
def takeDigits? : (count : Nat) → List Char → Option (Nat × List Char)
  | 0, cs => some (0, cs)
  | _ + 1, [] => none
  | count + 1, c :: cs =>
    if c.isDigit then
      (takeDigits? count cs).map fun (n, rest) => ((c.toNat - 48) * tenTo count + n, rest)
    else none

@[simp] theorem takeDigits?_nil (count : Nat) : takeDigits? (count + 1) [] = none := rfl

/-- A sign at the head of a text, whether it is a minus, and the rest. -/
def takeSign : List Char → Bool × List Char
  | '-' :: cs => (true, cs)
  | '+' :: cs => (false, cs)
  | cs => (false, cs)

/-- The power of ten that follows the letter of an exponent. -/
def exponent? (cs : List Char) : Option Int :=
  let (negative, digits) := takeSign cs
  if digits.isEmpty || !digits.all Char.isDigit then none
  else
    let size : Int := natOfDigits digits
    some (if negative then -size else size)

/-- The double that a decimal without a sign writes: digits with a point before, between or behind
them, and perhaps an exponent. -/
def decimal? (cs : List Char) : Option Binary64 :=
  let whole := cs.takeWhile Char.isDigit
  let rest := cs.dropWhile Char.isDigit
  let (fraction, rest) := match rest with
    | '.' :: more => (more.takeWhile Char.isDigit, more.dropWhile Char.isDigit)
    | more => ([], more)
  if whole.isEmpty && fraction.isEmpty then none
  else
    match rest with
    | [] => some (readDecimal whole fraction)
    | e :: more =>
      if e == 'e' || e == 'E' then (exponent? more).map (readScientific whole fraction) else none

/-! ## Writing -/

/-- The decimal digits of a number. -/
def digitsOf (n : Nat) : List Char := n.repr.toList

/-- The text cut into groups of three, counted from its end. -/
def groupsOfThree (cs : List Char) : List (List Char) :=
  match cs with
  | [] => []
  | c :: rest =>
    match groupsOfThree rest with
    | [] => [[c]]
    | group :: groups =>
      if group.length < 3 then (c :: group) :: groups else [c] :: group :: groups

theorem flatten_groupsOfThree (cs : List Char) : (groupsOfThree cs).flatten = cs := by
  induction cs with
  | nil => rfl
  | cons c rest ih =>
    rw [groupsOfThree]
    split
    · rename_i h
      rw [h] at ih
      simpa using ih
    · rename_i group groups h
      rw [h] at ih
      split <;> simpa using ih

/-- The number with a point between its groups of three digits. -/
def groupedDigits (n : Nat) : List Char :=
  ['.'].intercalate (groupsOfThree (digitsOf n))

/-- A double to the nearest whole number, a half going to the even neighbour; the words for what
is not finite. -/
def roundedText (x : Binary64) : String :=
  match x with
  | .nan => "nan"
  | .infinite negative => if negative then "-inf" else "inf"
  | .finite quanta _ => toString (nearestInt quanta quantaPerOne)

end BukuKas.Number
