/-!
# Spelling without regard to case

Units and filler words are recognised in any case.  Three letters outside ASCII share a simple
case mapping with an ASCII letter and are read as that letter: both Turkish forms of `i`, the long
`s`, and the kelvin sign.

## Main results

* `looksLike_of_toLower` : an ASCII letter is read as its small form.
* `dropLoose?_append` : a word in small letters is found at the head of a text that begins with it.
-/

namespace BukuKas.Text

/-- Whether a character is read as the given small ASCII letter. -/
def looksLike (letter c : Char) : Bool :=
  c.toLower == letter ||
  (letter == 'i' && (c == '\u0130' || c == '\u0131')) ||
  (letter == 's' && c == '\u017F') ||
  (letter == 'k' && c == '\u212A')

/-- Whether a character is read as some small ASCII letter. -/
def isLooseLetter (c : Char) : Bool :=
  c.isAlpha || c == '\u0130' || c == '\u0131' || c == '\u017F' || c == '\u212A'

/-- What follows the word, when the text begins with it in any spelling of its letters. -/
def dropLoose? : (word : List Char) → List Char → Option (List Char)
  | [], cs => some cs
  | _ :: _, [] => none
  | w :: ws, c :: cs => if looksLike w c then dropLoose? ws cs else none

@[simp] theorem dropLoose?_nil (cs : List Char) : dropLoose? [] cs = some cs := by
  cases cs <;> rfl

theorem looksLike_of_toLower {letter c : Char} (h : c.toLower = letter) :
    looksLike letter c = true := by
  simp [looksLike, h]

/-- A text that spells the word begins with it. -/
theorem dropLoose?_append :
    ∀ (word rest : List Char), (∀ c ∈ word, c.toLower = c) →
      dropLoose? word (word ++ rest) = some rest
  | [], rest, _ => by simp
  | w :: ws, rest, h => by
    rw [List.cons_append, dropLoose?, if_pos (looksLike_of_toLower (h w (by simp)))]
    exact dropLoose?_append ws rest fun c hc => h c (by simp [hc])

end BukuKas.Text
