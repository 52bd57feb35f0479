/-!
# White space

What counts as white space in a message, and the cuts that messages need: trimming both ends, the
words between blanks, and the last word with what stands before it.  Everything works on lists of
characters, so that a law about a cut is an induction on the text.

## Main results

* `trim_eq_nil_iff` : trimming leaves nothing exactly when the text is blank throughout.
* `words_ne_nil_of_mem` : no word is empty.
* `intercalate_splitAt` : a cut text is made up of its parts.
-/

namespace BukuKas.Text

/-- White space: the 25 characters of the Unicode property, and the four information separators
from U+001C to U+001F. -/
def isBlank (c : Char) : Bool :=
  let n := c.toNat
  (0x09 ≤ n && n ≤ 0x0D) || (0x1C ≤ n && n ≤ 0x20) || n == 0x85 || n == 0xA0 || n == 0x1680 ||
  (0x2000 ≤ n && n ≤ 0x200A) || n == 0x2028 || n == 0x2029 || n == 0x202F || n == 0x205F ||
  n == 0x3000

/-- Every character that the ASCII class of white space holds is a blank. -/
theorem isBlank_of_isWhitespace {c : Char} (h : c.isWhitespace = true) : isBlank c = true := by
  simp only [Char.isWhitespace, Bool.or_eq_true, decide_eq_true_eq] at h
  rcases h with ((rfl | rfl) | rfl) | rfl <;> decide

/-- White space in the sense of the Unicode property alone. -/
def isWhiteSpace (c : Char) : Bool :=
  isBlank c && !(0x1C ≤ c.toNat && c.toNat ≤ 0x1F)

theorem isBlank_of_isWhiteSpace {c : Char} (h : isWhiteSpace c = true) : isBlank c = true := by
  simp only [isWhiteSpace, Bool.and_eq_true] at h
  exact h.1

/-! ## Cutting the ends off -/

/-- The text without its longest run of such characters at either end. -/
def stripEnds (p : Char → Bool) (cs : List Char) : List Char :=
  ((cs.dropWhile p).reverse.dropWhile p).reverse

/-- The text without white space at either end. -/
def trim (cs : List Char) : List Char :=
  stripEnds isBlank cs

/-- The text without what has the Unicode property of white space at either end. -/
def trimWhiteSpace (cs : List Char) : List Char :=
  stripEnds isWhiteSpace cs

@[simp] theorem stripEnds_nil (p : Char → Bool) : stripEnds p [] = [] := rfl

@[simp] theorem trim_nil : trim [] = [] := rfl

theorem dropWhile_eq_nil {p : Char → Bool} :
    ∀ cs : List Char, cs.dropWhile p = [] ↔ ∀ c ∈ cs, p c = true
  | [] => by simp
  | c :: cs => by
    by_cases h : p c <;> simp [h, dropWhile_eq_nil cs]

theorem stripEnds_eq_nil_iff {p : Char → Bool} {cs : List Char} :
    stripEnds p cs = [] ↔ ∀ c ∈ cs, p c = true := by
  rw [stripEnds, List.reverse_eq_nil_iff, dropWhile_eq_nil]
  constructor
  · intro h
    have hrest : ∀ c ∈ cs.dropWhile p, p c = true := fun c hc => h c (List.mem_reverse.2 hc)
    cases hd : cs.dropWhile p with
    | nil => exact (dropWhile_eq_nil cs).1 hd
    | cons a r =>
      have ha : p a = true := hrest a (by simp [hd])
      have hn : ¬p a = true := by
        have := List.head?_dropWhile_not p cs
        simp [hd] at this
        simp [this]
      exact absurd ha hn
  · intro h c hc
    rw [(dropWhile_eq_nil cs).2 h] at hc
    simp at hc

theorem trim_eq_nil_iff {cs : List Char} : trim cs = [] ↔ ∀ c ∈ cs, isBlank c = true :=
  stripEnds_eq_nil_iff

/-! ## Words -/

/-- Splits off the word that the text begins with, when it begins with one. -/
def wordsFrom : (word : List Char) → List Char → List (List Char)
  | [], [] => []
  | w :: ws, [] => [(w :: ws).reverse]
  | word, c :: cs =>
    if isBlank c then
      match word with
      | [] => wordsFrom [] cs
      | w :: ws => (w :: ws).reverse :: wordsFrom [] cs
    else wordsFrom (c :: word) cs

/-- The maximal runs of characters that are not white space, in order. -/
def words (cs : List Char) : List (List Char) :=
  wordsFrom [] cs

@[simp] theorem words_nil : words [] = [] := rfl

theorem wordsFrom_ne_nil_of_mem {u : List Char} :
    ∀ (cs word : List Char), u ∈ wordsFrom word cs → u ≠ []
  | [], [], h => by simp [wordsFrom] at h
  | [], w :: ws, h => by simp [wordsFrom] at h; simp [h]
  | c :: cs, [], h => by
    by_cases hb : isBlank c
    · simp only [wordsFrom, hb, if_true] at h
      exact wordsFrom_ne_nil_of_mem cs [] h
    · simp only [wordsFrom, hb, Bool.false_eq_true, if_false] at h
      exact wordsFrom_ne_nil_of_mem cs [c] h
  | c :: cs, w :: ws, h => by
    by_cases hb : isBlank c
    · simp only [wordsFrom, hb, if_true, List.mem_cons] at h
      rcases h with rfl | h
      · simp
      · exact wordsFrom_ne_nil_of_mem cs [] h
    · simp only [wordsFrom, hb, Bool.false_eq_true, if_false] at h
      exact wordsFrom_ne_nil_of_mem cs (c :: w :: ws) h

theorem words_ne_nil_of_mem {cs u : List Char} (h : u ∈ words cs) : u ≠ [] :=
  wordsFrom_ne_nil_of_mem cs [] h

/-- The last word and all that stands before it.  There is none when at most one word is there. -/
def splitLastWord? (cs : List Char) : Option (List Char × List Char) :=
  let back := cs.reverse.dropWhile isBlank
  let last := back.takeWhile (!isBlank ·)
  let front := (back.dropWhile (!isBlank ·)).dropWhile isBlank
  if front.isEmpty then none else some (front.reverse, last.reverse)

/-! ## Finding one text in another -/

/-- Whether the second text stands somewhere in the first. -/
def contains (needle : List Char) : List Char → Bool
  | [] => needle.isEmpty
  | c :: cs => needle.isPrefixOf (c :: cs) || contains needle cs

/-- Cuts the text at each such character. -/
def splitAt (sep : Char) : List Char → List (List Char)
  | [] => [[]]
  | c :: cs =>
    match splitAt sep cs with
    | [] => [[c]]
    | part :: parts => if c == sep then [] :: part :: parts else (c :: part) :: parts

/-- The parts of a cut text make up the text again. -/
theorem intercalate_splitAt (sep : Char) (cs : List Char) :
    [sep].intercalate (splitAt sep cs) = cs := by
  induction cs with
  | nil => rfl
  | cons c cs ih =>
    rw [splitAt]
    split
    · rename_i h
      rw [h] at ih
      simp at ih
      simp [← ih]
    · rename_i part parts h
      rw [h] at ih
      by_cases hc : c = sep
      · subst hc
        simp [← ih]
      · cases parts with
        | nil => simp_all
        | cons next more => simp_all

end BukuKas.Text
