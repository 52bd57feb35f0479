/-!
# Names of hosts in ASCII

A label of a host's name in other characters is written in ASCII: its ASCII characters come first,
and behind a hyphen the others follow in the order of their codes.  Each is given by how many steps
lie between it and the one before, a step going to the next place of the label, or to its beginning
with the next code.  The steps are written in digits of base 36, the least one first, where a digit
below a threshold ends a number; the thresholds follow the size of the numbers so far.

## Main results

* `encode_ascii` : behind a label of ASCII stands nothing but the hyphen.
-/

namespace BukuKas.Text.Punycode

/-- The digit of a value below 36, the letters before the numerals. -/
def digit (value : Nat) : Char := Char.ofNat (if value < 26 then 97 + value else 22 + value)

/-- The value below which a digit ends a number, at a place of the number. -/
def threshold (place bias : Nat) : Nat := max 1 (min 26 (place - bias))

theorem threshold_pos (place bias : Nat) : 0 < threshold place bias := by
  unfold threshold
  omega

/-- The digits of a number from a place on. -/
def numeral (bias place n : Nat) : List Char :=
  let limit := threshold place bias
  if n < limit then [digit n]
  else
    digit (limit + (n - limit) % (36 - limit)) ::
      numeral bias (place + 36) ((n - limit) / (36 - limit))
termination_by n
decreasing_by
  have hpos := threshold_pos place bias
  exact Nat.lt_of_le_of_lt (Nat.div_le_self _ _) (by omega)

/-- How often a number must be divided by 35 until it is at most 455, and what is left of it. -/
def shrink (times n : Nat) : Nat × Nat :=
  if 455 < n then shrink (times + 1) (n / 35) else (times, n)
termination_by n
decreasing_by exact Nat.div_lt_self (by omega) (by decide)

/-- The bias behind a number, which was the first one or not, when so many characters are given. -/
def nextBias (first : Bool) (given n : Nat) : Nat :=
  let part := if first then n / 700 else n / 2
  let (times, left) := shrink 0 (part + part / given)
  36 * times + 36 * left / (left + 38)

/-- What has been written so far. -/
structure Progress where
  /-- The digits. -/
  written : List Char
  /-- The steps since the last character that was given. -/
  steps : Nat
  bias : Nat
  /-- How many characters are given. -/
  given : Nat

/-- Walks over a character of the label while those of a code are given. -/
def visit (ascii code : Nat) (p : Progress) (c : Char) : Progress :=
  if c.toNat < code then { p with steps := p.steps + 1 }
  else if c.toNat = code then
    { written := p.written ++ numeral p.bias 36 p.steps
      steps := 0
      bias := nextBias (p.given == ascii) (p.given + 1) p.steps
      given := p.given + 1 }
  else p

/-- Gives the characters of all codes in turn, `least` being the first code that is not yet done. -/
def giveAll (label : List Char) (ascii : Nat) :
    (least : Nat) → (codes : List Nat) → Progress → Progress
  | _, [], p => p
  | least, code :: codes, p =>
    let reached := { p with steps := p.steps + (code - least) * (p.given + 1) }
    let done := label.foldl (visit ascii code) reached
    giveAll label ascii (code + 1) codes { done with steps := done.steps + 1 }

/-- Whether a character is one of ASCII. -/
def isAscii (c : Char) : Bool := c.toNat < 0x80

/-- The codes of the other characters of a label, in order and each once. -/
def otherCodes (label : List Char) : List Nat :=
  ((label.filter (!isAscii ·)).map Char.toNat).eraseDups.mergeSort fun a b => decide (a ≤ b)

/-- The label in ASCII. -/
def encode (label : List Char) : List Char :=
  let ascii := label.filter isAscii
  let others := giveAll label ascii.length 0x80 (otherCodes label) ⟨[], 0, 72, ascii.length⟩
  (if ascii.isEmpty then [] else ascii ++ ['-']) ++ others.written

theorem encode_ascii {label : List Char} (h : ∀ c ∈ label, isAscii c = true) (hne : label ≠ []) :
    encode label = label ++ ['-'] := by
  have hkeep : label.filter isAscii = label := List.filter_eq_self.2 h
  have hdrop : label.filter (!isAscii ·) = [] := by
    rw [List.filter_eq_nil_iff]
    intro c hc
    simp [h c hc]
  simp [encode, otherCodes, hkeep, hdrop, giveAll, List.isEmpty_iff, hne]

end BukuKas.Text.Punycode
