import BukuKas.Amount

/-!
# Tags and item labels

A category tag is a number sign with digits right after it.  The label of an item is what is left
of the text without its tags, amounts, filler words and number signs, in normal form: words divided
by single spaces, none of them before a comma, point or mark, and the ends free of punctuation.
-/

namespace BukuKas

open Text (isDigit isBoundary dropLoose?)

namespace Tag

/-- The search for tags: the digits behind a number sign. -/
def search : Text.Search (List Char)
  | _, '#' :: cs =>
    let digits := cs.takeWhile isDigit
    if digits.isEmpty then none else some (digits, digits.length)
  | _, _ => none

/-- The number of the first tag of a text. -/
def extract (cs : List Char) : Except Fault (Option Nat) :=
  match (Text.finds search cs).head? with
  | none => .ok none
  | some digits =>
    match Number.readNat digits with
    | .ok n => .ok (some n)
    | .error count => .error (.numeralTooLong count)

@[simp] theorem extract_nil : extract [] = .ok none := rfl

end Tag

namespace Label

/-- The words that say nothing about an item. -/
def fillers : List String :=
  ["catat", "tambah", "beli", "bayar", "untuk", "buat", "seharga", "rp", "idr"]

/-- The filler word at the head of the text, when it is a whole word there. -/
def fillerAt? (before : Option Char) (cs : List Char) : Option String :=
  if isBoundary before cs.head? then
    fillers.find? fun filler =>
      match dropLoose? filler.toList cs with
      | some rest => isBoundary (cs.take filler.length).getLast? rest.head?
      | none => false
  else none

/-- The search for filler words. -/
def fillerSearch : Text.Search String := fun before cs =>
  (fillerAt? before cs).map fun filler => (filler, filler.length - 1)

/-- The marks before which no space is left. -/
def isMark (c : Char) : Bool := c == ',' || c == '.' || c == '!' || c == '?'

/-- The text without the spaces that stand right before a mark. -/
def closeMarks : List Char → List Char
  | [] => []
  | c :: cs =>
    if c == ' ' && cs.head?.any isMark then closeMarks cs else c :: closeMarks cs

/-- The characters that a label neither begins nor ends with. -/
def isEdge (c : Char) : Bool :=
  c == ' ' || c == ',' || c == '.' || c == ';' || c == ':' || c == '-'

/-- The label of an item of which nothing else is left. -/
def standard : String := "Transaksi"

/-- What a text says about an item, before its first letter is made large. -/
def core (cs : List Char) : List Char :=
  let untagged := Text.withoutFinds Tag.search cs
  let unpriced := Text.withoutFinds Figure.search untagged
  let bare := (Text.withoutFinds fillerSearch unpriced).filter (· != '#')
  Text.stripEnds isEdge (closeMarks ([' '].intercalate (Text.words bare)))

/-- The label of the item that a text is about. -/
def derive (cs : List Char) : String :=
  match core cs with
  | [] => standard
  | label => String.ofList (Text.capitalize label)

end Label

end BukuKas
