import BukuKas.Text.WordSpans

/-!
# Word boundaries

A whole word in a message ends where a character that words are made of meets one that they are
not made of, or an end of the text.
-/

namespace BukuKas.Text

/-- Whether a code point lies in one of the spans. -/
def inSpans (spans : List (Nat × Nat)) (n : Nat) : Bool :=
  spans.any fun span => span.1 ≤ n && n ≤ span.2

/-- Letters, digits, numbers and the low line of any script. -/
def isWordChar (c : Char) : Bool :=
  inSpans wordSpans c.toNat

/-- Whether a place between two characters divides a word from what is no word.  An end of the
text counts as no word. -/
def isBoundary (before after : Option Char) : Bool :=
  before.any isWordChar != after.any isWordChar

@[simp] theorem isBoundary_none : isBoundary none none = false := rfl

/-- A boundary does not depend on the side from which it is looked at. -/
theorem isBoundary_comm (a b : Option Char) : isBoundary a b = isBoundary b a := by
  unfold isBoundary
  cases a.any isWordChar <;> cases b.any isWordChar <;> rfl

end BukuKas.Text
