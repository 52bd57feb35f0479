import BukuKas.Fault
import BukuKas.Number.Numeral
import BukuKas.Text.Blank
import BukuKas.Text.Case
import BukuKas.Text.Loose
import BukuKas.Text.Piece

/-!
# Amounts of money in a text

A figure is a run of digits, perhaps with a fraction behind a point or a comma, perhaps with a unit
such as `rb` or `jt` after white space.  No letter follows a unit, so that two cups of `kopi` are
not two thousand, and no digit or number sign stands right before a figure, so that a category tag
is not an amount.

The amount of a text is the first figure that can be one: with a unit every positive figure can,
without one it has to be at least a hundred, so that quantities are passed over.
-/

namespace BukuKas

open Number (Binary64 readDecimal)
open Text (isDigit isBlank isLooseLetter dropLoose? lower)

/-- The units of money. -/
inductive MoneyUnit where
  | ribu
  | rb
  | k
  | juta
  | jt
  deriving DecidableEq, Repr

namespace MoneyUnit

/-- The units in the order in which they are looked for. -/
def all : List MoneyUnit := [.ribu, .rb, .k, .juta, .jt]

/-- How a unit is written in small letters. -/
def spelling : MoneyUnit → List Char
  | .ribu => ['r', 'i', 'b', 'u']
  | .rb => ['r', 'b']
  | .k => ['k']
  | .juta => ['j', 'u', 't', 'a']
  | .jt => ['j', 't']

/-- How many a unit stands for. -/
def size : MoneyUnit → Nat
  | .ribu => 1000
  | .rb => 1000
  | .k => 1000
  | .juta => 1000000
  | .jt => 1000000

/-- The unit that a spelling in small letters is, if it is one. -/
def ofSpelling? (cs : List Char) : Option MoneyUnit :=
  all.find? fun u => u.spelling == cs

theorem ofSpelling?_spelling (u : MoneyUnit) : ofSpelling? u.spelling = some u := by
  cases u <;> rfl

end MoneyUnit

/-- A figure as it is written in a text. -/
structure Figure where
  /-- The digits before a point or comma. -/
  whole : List Char
  /-- The digits behind it, if there is one. -/
  fraction : List Char
  /-- The letters of a unit, if there is one. -/
  suffix : List Char
  deriving DecidableEq, Repr

namespace Figure

/-- The value of the digits. -/
def value (f : Figure) : Binary64 :=
  readDecimal f.whole f.fraction

/-- The least amount that is written without a unit. -/
def leastBare : Binary64 := 100

/-- The amount of a figure: none when the figure is too small to be one. -/
def amount? (f : Figure) : Except Fault (Option Binary64) :=
  if f.suffix.isEmpty then
    .ok (if leastBare ≤ f.value then some f.value else none)
  else if f.value ≤ 0 then .ok none
  else
    match MoneyUnit.ofSpelling? (lower f.suffix) with
    | some u => .ok (some (f.value * .ofNat u.size))
    | none => .error (.unknownUnit (String.ofList (lower f.suffix)))

/-- The digits behind a point or comma at the head of the text. -/
def fractionAt : List Char → List Char
  | point :: cs => if point == '.' || point == ',' then cs.takeWhile isDigit else []
  | [] => []

/-- The letters of a unit at the head of a text, when no letter follows them. -/
def suffixAt (cs : List Char) : List Char :=
  let found := MoneyUnit.all.find? fun u =>
    match dropLoose? u.spelling cs with
    | some rest => !rest.head?.any isLooseLetter
    | none => false
  match found with
  | some u => cs.take u.spelling.length
  | none => []

/-- The figure that begins at the head of the text, with the number of its characters. -/
def scan (cs : List Char) : Figure × Nat :=
  let whole := cs.takeWhile isDigit
  let afterWhole := cs.drop whole.length
  let fraction := fractionAt afterWhole
  let point := if fraction.isEmpty then 0 else 1
  let afterDigits := afterWhole.drop (point + fraction.length)
  let gap := afterDigits.takeWhile isBlank
  let suffix := suffixAt (afterDigits.drop gap.length)
  let tail := if suffix.isEmpty then 0 else gap.length + suffix.length
  (⟨whole, fraction, suffix⟩, whole.length + point + fraction.length + tail)

/-- The search for figures: a digit with neither a digit nor a number sign right before it. -/
def search : Text.Search Figure
  | _, [] => none
  | before, c :: cs =>
    if isDigit c && !before.any (fun b => b == '#' || isDigit b) then
      let (figure, length) := scan (c :: cs)
      some (figure, length - 1)
    else none

/-- The figures of a text, in order. -/
def allIn (cs : List Char) : List Figure :=
  Text.finds search cs

end Figure

namespace Amount

/-- The first figure that is an amount. -/
def first? : List Figure → Except Fault (Option Binary64)
  | [] => .ok none
  | f :: fs =>
    match f.amount? with
    | .error fault => .error fault
    | .ok (some amount) => .ok (some amount)
    | .ok none => first? fs

/-- The amount that a text names, if it names one. -/
def extract (cs : List Char) : Except Fault (Option Binary64) :=
  first? (Figure.allIn cs)

@[simp] theorem extract_nil : extract [] = .ok none := rfl

end Amount

end BukuKas
