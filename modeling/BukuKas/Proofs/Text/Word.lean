import BukuKas.Proofs.Text.Cut
import BukuKas.Proofs.Text.Digits
import Mathlib.Data.List.TakeWhile

/-!
# The words of a text

A word is a run of characters that are no blanks, and a trimmed text begins with its first word.
The lower case of a text begins with that of its first word, unless a capital sigma stands in it:
which small sigma one becomes depends on what stands behind it.

## Main results

* `words_blanks_append`, `words_cons_of_not_isBlank` : words behind blanks and words that begin a
  text.
* `exists_rest` : a trimmed text begins with its first word.
* `exists_rest_lower` : the lower case of a trimmed text begins with that of its first word.
-/

namespace BukuKas.Text

/-! ## The first word -/

/-- Whether the character stands in a word. -/
def isInk (c : Char) : Bool := !isBlank c

theorem isInk_iff {c : Char} : isInk c = true ↔ isBlank c = false := by
  simp [isInk]

theorem isInk_of_isBlank {c : Char} (h : isBlank c = true) : isInk c = false := by
  rw [isInk, h]
  rfl

theorem words_blanks_append {blanks : List Char} (h : ∀ c ∈ blanks, isBlank c = true)
    (cs : List Char) :
    words (blanks ++ cs) = words cs := by
  induction blanks with
  | nil => rfl
  | cons c blanks ih =>
      obtain ⟨hc, hblanks⟩ := List.forall_mem_cons.mp h
      rw [List.cons_append, words, wordsFrom, if_pos hc]
      exact ih hblanks

/-- A word that has begun goes on up to the next blank. -/
theorem wordsFrom_cons (c : Char) (before cs : List Char) :
    wordsFrom (c :: before) cs =
      ((c :: before).reverse ++ cs.takeWhile isInk) :: words (cs.dropWhile isInk) := by
  induction cs generalizing c before with
  | nil => rw [List.takeWhile_nil, List.append_nil]; rfl
  | cons d ds ih =>
      by_cases hblank : isBlank d = true
      · have hstop : ¬ isInk d = true := Bool.eq_false_iff.mp (isInk_of_isBlank hblank)
        rw [List.takeWhile_cons_of_neg hstop, List.dropWhile_cons_of_neg hstop, List.append_nil,
          wordsFrom, if_pos hblank, words, wordsFrom, if_pos hblank]
      · have hgo : isInk d = true := isInk_iff.mpr (Bool.eq_false_iff.mpr hblank)
        rw [List.takeWhile_cons_of_pos hgo, List.dropWhile_cons_of_pos hgo, wordsFrom,
          if_neg hblank, ih, List.reverse_cons, List.append_assoc, List.singleton_append]

/-- A text that begins with no blank begins with a word. -/
theorem words_cons_of_not_isBlank {c : Char} (h : isBlank c = false) (cs : List Char) :
    words (c :: cs) =
      (c :: cs).takeWhile isInk :: words ((c :: cs).dropWhile isInk) := by
  have hgo : isInk c = true := isInk_iff.mpr h
  rw [words, wordsFrom, if_neg (Bool.eq_false_iff.mp h), wordsFrom_cons,
    List.takeWhile_cons_of_pos hgo, List.dropWhile_cons_of_pos hgo]
  rfl

/-- What stands in a word is no blank and stood in the text. -/
theorem mem_of_mem_wordsFrom {u before cs : List Char} (h : u ∈ wordsFrom before cs) :
    ∀ c ∈ u, c ∈ before ∨ (c ∈ cs ∧ isBlank c = false) := by
  induction cs generalizing u before with
  | nil =>
      cases before with
      | nil => simp [wordsFrom] at h
      | cons b bs =>
          rw [wordsFrom, List.mem_singleton] at h
          intro c hc
          exact .inl (List.mem_reverse.mp (h ▸ hc))
  | cons d ds ih =>
      by_cases hblank : isBlank d = true
      · have hlater (hrest : u ∈ wordsFrom [] ds) : ∀ c ∈ u, c ∈ before ∨
            (c ∈ d :: ds ∧ isBlank c = false) := by
          intro c hc
          have hih := ih hrest c hc
          simp_all
        cases before with
        | nil =>
            rw [wordsFrom, if_pos hblank] at h
            exact hlater h
        | cons b bs =>
            rw [wordsFrom, if_pos hblank] at h
            rcases List.mem_cons.mp h with hword | hrest
            · intro c hc
              exact .inl (List.mem_reverse.mp (hword ▸ hc))
            · exact hlater hrest
      · have hgo : wordsFrom before (d :: ds) = wordsFrom (d :: before) ds := by
          cases before <;> simp [wordsFrom, hblank]
        rw [hgo] at h
        intro c hc
        have hih := ih h c hc
        by_cases hsame : c = d
        · simp_all
        · simp_all

theorem mem_of_mem_words {u cs : List Char} (h : u ∈ words cs) :
    ∀ c ∈ u, c ∈ cs ∧ isBlank c = false := by
  intro c hc
  simpa using mem_of_mem_wordsFrom h c hc

/-- A word that a blank or nothing follows is the first word. -/
theorem head?_words_append {word rest : List Char} (hne : word ≠ [])
    (hword : ∀ c ∈ word, isInk c = true) (hrest : rest.head?.any isInk = false) :
    (words (word ++ rest)).head? = some word := by
  cases word with
  | nil => exact absurd rfl hne
  | cons c cs =>
      have hc : isBlank c = false := isInk_iff.mp (hword c List.mem_cons_self)
      rw [List.cons_append, words_cons_of_not_isBlank hc, List.head?_cons, ← List.cons_append,
        takeWhile_append_of_head? _ hrest, List.takeWhile_eq_self_iff.mpr hword]

/-- A trimmed text begins with its first word. -/
theorem exists_rest {cs word : List Char} (h : (words cs).head? = some word) :
    ∃ rest, trim cs = word ++ rest ∧ word ≠ [] ∧ (∀ c ∈ word, isInk c = true) ∧
      rest.head?.any isInk = false := by
  obtain ⟨front, back, hcs, hfront, hback⟩ := exists_blanks cs
  have hbackHead : back.head?.any isInk = false := by
    cases back with
    | nil => rfl
    | cons c cs => exact isInk_of_isBlank (hback c List.mem_cons_self)
  rw [hcs, words_blanks_append hfront] at h
  have hends := (ends_trim cs).1
  generalize trim cs = trimmed at h hends
  cases trimmed with
  | nil =>
      rw [List.nil_append, ← List.append_nil back, words_blanks_append hback] at h
      exact nomatch h
  | cons c rest =>
      have hc : isBlank c = false := hends c rfl
      rw [List.cons_append, words_cons_of_not_isBlank hc, List.head?_cons, ← List.cons_append,
        takeWhile_append_of_head? _ hbackHead] at h
      injection h with h
      subst h
      refine ⟨(c :: rest).dropWhile isInk, (List.takeWhile_append_dropWhile).symm, ?_,
        List.all_eq_true.mp List.all_takeWhile, any_head?_dropWhile isInk _⟩
      rw [List.takeWhile_cons_of_pos (isInk_iff.mpr hc)]
      exact List.cons_ne_nil _ _

/-! ## The first word in lower case -/

/-- A blank is its own lower case. -/
theorem isLow_of_isBlank {c : Char} (h : isBlank c = true) : IsLow c := by
  have hall : blankNumbers.all (fun n => decide (IsLow (Char.ofNat n))) = true := by decide +kernel
  exact of_decide_eq_true (of_isBlank (p := fun c => decide (IsLow c)) hall h)

/-- The lower case of a text without a capital sigma is that of its characters. -/
theorem lowerFrom_of_not_mem {cs : List Char} (h : '\u03A3' ∉ cs) (before : List Char) :
    lowerFrom before cs = cs.flatMap lowerChar := by
  induction cs generalizing before with
  | nil => rfl
  | cons c cs ih =>
      rw [List.mem_cons, not_or] at h
      rw [lowerFrom, if_neg (by simpa using Ne.symm h.1), ih h.2]
      rfl

/-- Without a capital sigma in the front, a text may be cut before its lower case is taken. -/
theorem lowerFrom_append {front : List Char} (h : '\u03A3' ∉ front) (before back : List Char) :
    lowerFrom before (front ++ back) = front.flatMap lowerChar ++
      lowerFrom (front.reverse ++ before) back := by
  induction front generalizing before with
  | nil => rfl
  | cons c front ih =>
      rw [List.mem_cons, not_or] at h
      rw [List.cons_append, lowerFrom, if_neg (by simpa using Ne.symm h.1), ih h.2,
        List.flatMap_cons, List.append_assoc, List.reverse_cons, List.append_assoc,
        List.singleton_append]

/-- A capital sigma becomes one of the two small ones. -/
theorem exists_sigma {cs : List Char} (h : '\u03A3' ∈ cs) (before : List Char) :
    '\u03C2' ∈ lowerFrom before cs ∨ '\u03C3' ∈ lowerFrom before cs := by
  induction cs generalizing before with
  | nil => exact nomatch h
  | cons c cs ih =>
      rw [lowerFrom]
      rcases List.mem_cons.mp h with rfl | h
      · rw [if_pos (by decide)]
        split
        · exact .inl (List.mem_append_left _ List.mem_cons_self)
        · exact .inr (List.mem_append_left _ List.mem_cons_self)
      · exact (ih h (c :: before)).imp (List.mem_append_right _) (List.mem_append_right _)

/-- What follows a word is lowered to something that follows a word. -/
theorem head?_lowerFrom {rest : List Char} (h : rest.head?.any isInk = false) (before : List Char) :
    (lowerFrom before rest).head?.any isInk = false := by
  cases rest with
  | nil => rfl
  | cons c cs =>
      have hblank : isBlank c = true := by simpa [isInk] using h
      obtain ⟨hsigma, hlow⟩ := isLow_of_isBlank hblank
      rw [lowerFrom, if_neg (by simpa using hsigma), hlow]
      exact h

/-- The lower case of a trimmed text begins with the lower case of its first word. -/
theorem exists_rest_lower {cs word : List Char} (h : (words cs).head?.map lower = some word)
    (hfinal : '\u03C2' ∉ word) (hsmall : '\u03C3' ∉ word) :
    ∃ rest, lower (trim cs) = word ++ rest ∧ rest.head?.any isInk = false := by
  obtain ⟨first, hfirst, rfl⟩ := Option.map_eq_some_iff.mp h
  obtain ⟨rest, htrim, -, -, hrest⟩ := exists_rest hfirst
  have hsigma : '\u03A3' ∉ first := by
    intro hmem
    rcases exists_sigma hmem [] with hs | hs
    · exact hfinal hs
    · exact hsmall hs
  refine ⟨lowerFrom (first.reverse ++ []) rest, ?_, head?_lowerFrom hrest _⟩
  rw [htrim, lower, lowerFrom_append hsigma, lower, lowerFrom_of_not_mem hsigma]

end BukuKas.Text
