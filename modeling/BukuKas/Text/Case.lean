import BukuKas.Text.CaseSpans
import BukuKas.Text.Word

/-!
# Lower and upper case

The full case mappings of a text.  One character may become several, and a capital sigma becomes
its final form where a letter stands before it and none after it, marks being passed over.
-/

namespace BukuKas.Text

/-- Moves a code point by the first run that holds it. -/
def CaseRun.move? (runs : List CaseRun) (n : Nat) : Option Nat :=
  (runs.find? fun r => r.first ≤ n && n ≤ r.last && (n - r.first) % r.stride == 0).map
    fun r => (Int.ofNat n + r.shift).toNat

/-- The full mapping that the two tables give together: expansions first, then the runs, and every
other character stays. -/
def mapCase (expansions : List (Nat × List Nat)) (runs : List CaseRun) (c : Char) : List Char :=
  match expansions.lookup c.toNat with
  | some ns => ns.map Char.ofNat
  | none => [((CaseRun.move? runs c.toNat).map Char.ofNat).getD c]

/-- The lower case of one character by itself. -/
def lowerChar (c : Char) : List Char :=
  if c.toNat < 0x80 then [c.toLower] else mapCase lowerExpansions lowerRuns c

/-- The upper case of one character. -/
def upperChar (c : Char) : List Char :=
  if c.toNat < 0x80 then [c.toUpper] else mapCase upperExpansions upperRuns c

/-- Whether the nearest character that is not passed over is a letter with case. -/
def nextIsCased (cs : List Char) : Bool :=
  match cs.dropWhile fun c => inSpans caselessMarkSpans c.toNat with
  | [] => false
  | c :: _ => inSpans casedSpans c.toNat

/-- The lower case of the rest of a text, given what stands before it, nearest character first. -/
def lowerFrom : (before : List Char) → List Char → List Char
  | _, [] => []
  | before, c :: cs =>
    (if c == '\u03A3' then
      [if nextIsCased before && !nextIsCased cs then '\u03C2' else '\u03C3']
    else lowerChar c) ++ lowerFrom (c :: before) cs

/-- The text in lower case. -/
def lower (cs : List Char) : List Char :=
  lowerFrom [] cs

/-- The text in upper case. -/
def upper (cs : List Char) : List Char :=
  cs.flatMap upperChar

/-- The text with its first character in upper case, which may make it longer. -/
def capitalize : List Char → List Char
  | [] => []
  | c :: cs => upperChar c ++ cs

@[simp] theorem lower_nil : lower [] = [] := rfl

@[simp] theorem upper_nil : upper [] = [] := rfl

/-- In a text of ASCII characters every character has its own lower case. -/
theorem lowerFrom_of_ascii :
    ∀ (cs before : List Char), (∀ c ∈ cs, c.toNat < 0x80) →
      lowerFrom before cs = cs.map Char.toLower
  | [], _, _ => rfl
  | c :: cs, before, h => by
    have hc : c.toNat < 0x80 := h c (by simp)
    have hs : (c == '\u03A3') = false := by
      apply beq_false_of_ne
      rintro rfl
      exact absurd hc (by decide)
    simp [lowerFrom, hs, lowerChar, hc, lowerFrom_of_ascii cs (c :: before) fun d hd =>
      h d (by simp [hd])]

theorem lower_of_ascii {cs : List Char} (h : ∀ c ∈ cs, c.toNat < 0x80) :
    lower cs = cs.map Char.toLower :=
  lowerFrom_of_ascii cs [] h

end BukuKas.Text
