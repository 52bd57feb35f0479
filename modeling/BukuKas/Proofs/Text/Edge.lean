import BukuKas.Proofs.Text.Word

/-!
# The edges of a text

What stands at an edge of a text often does not matter for what is read of the rest.  Blanks there
are trimmed and belong to no word; a word that is looked for is not found across the edge, if it
neither begins nor ends with such characters; and the lower case of the rest stays the same beside a
character that is no letter with case, since only such letters, and the marks that are passed over,
decide the form of a sigma.

## Main results

* `trim_blanks_append`, `trim_append_blanks`, `words_append_blanks` : blanks at an edge.
* `trim_append` : what stands behind a text without blanks.
* `contains_append_left`, `contains_append_right` : words that are not found across an edge.
* `lower_neutral_append`, `lower_append_neutral` : lower case beside characters without case.
-/

namespace BukuKas.Text

variable {front back blanks cs : List Char}

/-! ## Trimming and words -/

theorem trim_blanks_append (h : ∀ c ∈ blanks, isBlank c = true) (cs : List Char) :
    trim (blanks ++ cs) = trim cs := by
  unfold trim stripEnds
  rw [List.dropWhile_append_of_pos h]

theorem trim_append_blanks (cs : List Char) (h : ∀ c ∈ blanks, isBlank c = true) :
    trim (cs ++ blanks) = trim cs := by
  have hblanks : blanks.dropWhile isBlank = [] := (dropWhile_eq_nil blanks).mpr h
  have hreverse : ∀ c ∈ blanks.reverse, isBlank c = true := fun c hc => h c (List.mem_reverse.mp hc)
  unfold trim stripEnds
  rw [List.dropWhile_append]
  split
  · rename_i hempty
    rw [List.isEmpty_iff.mp hempty, hblanks]
  · rw [List.reverse_append, List.dropWhile_append_of_pos hreverse]

theorem wordsFrom_append_blanks (word cs : List Char) (h : ∀ c ∈ blanks, isBlank c = true) :
    wordsFrom word (cs ++ blanks) = wordsFrom word cs := by
  induction cs generalizing word with
  | nil =>
      have hnone {bs : List Char} (hbs : ∀ c ∈ bs, isBlank c = true) : words bs = [] := by
        have happend := words_blanks_append hbs []
        rwa [List.append_nil] at happend
      cases word with
      | nil => exact hnone h
      | cons c word =>
          cases blanks with
          | nil => rfl
          | cons b bs =>
              obtain ⟨hb, hbs⟩ := List.forall_mem_cons.mp h
              have hword : wordsFrom (c :: word) (b :: bs) = (c :: word).reverse :: words bs :=
                if_pos hb
              rw [List.nil_append, hword, hnone hbs, wordsFrom]
  | cons c cs ih =>
      cases word with
      | nil => rw [List.cons_append, wordsFrom, wordsFrom, ih, ih]
      | cons d word => rw [List.cons_append, wordsFrom, wordsFrom, ih, ih]

theorem words_append_blanks (cs : List Char) (h : ∀ c ∈ blanks, isBlank c = true) :
    words (cs ++ blanks) = words cs := wordsFrom_append_blanks [] cs h

/-- A text that begins with no blank is its trimmed form before blanks. -/
theorem exists_back (h : ∀ c ∈ cs.head?, isBlank c = false) :
    ∃ back, cs = trim cs ++ back ∧ ∀ c ∈ back, isBlank c = true := by
  obtain ⟨front, back, hcs, hfront, hback⟩ := exists_blanks cs
  cases front with
  | nil => exact ⟨back, hcs, hback⟩
  | cons c front =>
      rw [hcs] at h
      exact nomatch (h c rfl).symm.trans (hfront c List.mem_cons_self)

theorem head?_trim (h : ∀ c ∈ cs.head?, isBlank c = false) : (trim cs).head? = cs.head? := by
  obtain ⟨back, hcs, hback⟩ := exists_back h
  cases htrim : trim cs with
  | nil =>
      rw [htrim, List.nil_append] at hcs
      subst hcs
      cases cs with
      | nil => rfl
      | cons c cs => exact nomatch (h c rfl).symm.trans (hback c List.mem_cons_self)
  | cons c rest => rw [hcs, htrim, List.cons_append]; rfl

/-- What stands behind a text without blanks is trimmed on its own. -/
theorem trim_append {stem : List Char} (hstem : ∀ c ∈ stem, isBlank c = false)
    (hcs : ∀ c ∈ cs.head?, isBlank c = false) : trim (stem ++ cs) = stem ++ trim cs := by
  obtain ⟨back, heq, hback⟩ := exists_back hcs
  have hends := ends_trim cs
  have hcut : trim (stem ++ cs) = trim (stem ++ trim cs) := by
    rw [heq, ← List.append_assoc, trim_append_blanks _ hback, ← heq]
  rw [hcut]
  apply trim_of_ends
  · cases stem with
    | nil => exact hends.1
    | cons c stem => exact fun d hd => hstem d (List.mem_of_mem_head? hd)
  · intro d hd
    rw [List.getLast?_append] at hd
    cases hlast : (trim cs).getLast? with
    | none =>
        rw [hlast, Option.none_or] at hd
        exact hstem d (List.mem_of_getLast? hd)
    | some last =>
        rw [hlast, Option.some_or] at hd
        exact hends.2 d (hlast.trans hd)

/-! ## The last word -/

/-- A single word has no words before it. -/
theorem splitLastWord?_of_word {word : List Char} (hword : ∀ c ∈ word, isBlank c = false) :
    splitLastWord? word = none := by
  have hreverse : ∀ c ∈ word.reverse.head?, isBlank c = false := fun c hc =>
    hword c (List.mem_reverse.mp (List.mem_of_mem_head? hc))
  have hink : ∀ c ∈ word.reverse, (!isBlank c) = true := fun c hc => by
    rw [hword c (List.mem_reverse.mp hc)]
    rfl
  unfold splitLastWord?
  dsimp only
  rw [dropWhile_of_head? hreverse, (dropWhile_eq_nil word.reverse).mpr hink]
  rfl

/-- A word behind a blank is split from the text before it, of which nothing is lost when it ends
with no blank. -/
theorem splitLastWord?_append {front word : List Char} {c : Char} (hne : front ≠ [])
    (hlast : ∀ d ∈ front.getLast?, isBlank d = false) (hc : isBlank c = true) (hword : word ≠ [])
    (hink : ∀ d ∈ word, isBlank d = false) :
    splitLastWord? (front ++ c :: word) = some (front, word) := by
  have hreverse : (front ++ c :: word).reverse = word.reverse ++ c :: front.reverse := by simp
  have hhead : ∀ d ∈ (word.reverse ++ c :: front.reverse).head?, isBlank d = false := by
    intro d hd
    rw [List.head?_append, List.head?_reverse, List.getLast?_eq_some_getLast hword, Option.some_or]
      at hd
    rw [← Option.some.inj (Option.mem_def.mp hd)]
    exact hink _ (List.getLast_mem hword)
  have hrun : ∀ d ∈ word.reverse, (!isBlank d) = true := fun d hd => by
    rw [hink d (List.mem_reverse.mp hd)]
    rfl
  have hstop : (c :: front.reverse).head?.any (!isBlank ·) = false := by simp [hc]
  have hfront : (c :: front.reverse).dropWhile isBlank = front.reverse := by
    rw [List.dropWhile_cons_of_pos hc, dropWhile_of_head?]
    rwa [List.head?_reverse]
  unfold splitLastWord?
  dsimp only
  rw [hreverse, dropWhile_of_head? hhead, takeWhile_append_of_head? _ hstop,
    dropWhile_append_of_head? _ hstop, (dropWhile_eq_nil _).mpr hrun, List.nil_append, hfront,
    if_neg (by simpa using hne), List.reverse_reverse, List.takeWhile_eq_self_iff.mpr hrun,
    List.reverse_reverse]

/-- The last word of a text goes back as far as no blank stands in it. -/
theorem suffix_of_splitLastWord? {front word before last : List Char}
    (hword : ∀ c ∈ word, isBlank c = false)
    (h : splitLastWord? (front ++ word) = some (before, last)) : word <:+ last := by
  cases hreverse : word.reverse with
  | nil =>
      rw [List.reverse_eq_nil_iff.mp hreverse]
      exact List.nil_suffix
  | cons c cs =>
      have hblank : ∀ d ∈ c :: cs, isBlank d = false := fun d hd =>
        hword d (List.mem_reverse.mp (hreverse ▸ hd))
      have hink : ∀ d ∈ c :: cs, (!isBlank d) = true := fun d hd => by
        rw [hblank d hd]
        rfl
      unfold splitLastWord? at h
      dsimp only at h
      rw [List.reverse_append, hreverse, List.cons_append,
        List.dropWhile_cons_of_neg (Bool.eq_false_iff.mp (hblank c List.mem_cons_self)),
        ← List.cons_append, List.takeWhile_append_of_pos hink, ← hreverse, List.reverse_append,
        List.reverse_reverse] at h
      split at h
      · exact nomatch h
      · injection h with h
        rw [← (Prod.mk.inj h).2]
        exact List.suffix_append _ _

/-! ## Looking for words -/

/-- A word is not found where its first character does not stand. -/
theorem contains_append_left {needle : List Char} (h : ∀ c ∈ needle.head?, c ∉ front)
    (cs : List Char) :
    contains needle (front ++ cs) = contains needle cs := by
  cases needle with
  | nil => rw [Bool.eq_iff_iff, contains_eq_true_iff, contains_eq_true_iff]; simp
  | cons c needle =>
      have hc : c ∉ front := h c rfl
      induction front with
      | nil => rfl
      | cons d front ih =>
          rw [List.mem_cons, not_or] at hc
          have hprefix : (c :: needle).isPrefixOf (d :: (front ++ cs)) = false := by
            rw [List.isPrefixOf, beq_false_of_ne hc.1, Bool.false_and]
          rw [List.cons_append, contains, hprefix, Bool.false_or]
          exact ih (fun _ hd => Option.mem_some.mp hd ▸ hc.2) hc.2

/-- A word is not found where its last character does not stand. -/
theorem contains_append_right {needle : List Char} (cs : List Char)
    (h : ∀ c ∈ needle.getLast?, c ∉ back) :
    contains needle (cs ++ back) = contains needle cs := by
  have hreverse (ds : List Char) : contains needle ds = contains needle.reverse ds.reverse := by
    rw [Bool.eq_iff_iff, contains_eq_true_iff, contains_eq_true_iff, List.reverse_infix]
  rw [hreverse, List.reverse_append, contains_append_left, ← hreverse]
  intro c hc hmem
  rw [List.head?_reverse] at hc
  exact h c hc (List.mem_reverse.mp hmem)

/-! ## Lower case -/

/-- The character is its own lower case, and does not decide that of a sigma: it is no letter with
case, and it is not passed over. -/
def IsNeutral (c : Char) : Prop :=
  IsLow c ∧ inSpans casedSpans c.toNat = false ∧ inSpans caselessMarkSpans c.toNat = false

instance (c : Char) : Decidable (IsNeutral c) := inferInstanceAs (Decidable (_ ∧ _))

theorem isNeutral_of_isBlank {c : Char} (h : isBlank c = true) : IsNeutral c := by
  have hall : blankNumbers.all (fun n => decide (IsNeutral (Char.ofNat n))) = true := by
    decide +kernel
  exact of_decide_eq_true (of_isBlank (p := fun c => decide (IsNeutral c)) hall h)

/-- No letter with case and no mark that is passed over lies in a block of digits. -/
theorem spans_avoid_digits : ∀ span ∈ casedSpans ++ caselessMarkSpans, ∀ nought ∈ zeroDigits,
    span.2 < nought ∨ nought + 10 ≤ span.1 := by
  have hall : (casedSpans ++ caselessMarkSpans).all (fun span => zeroDigits.all fun nought =>
      Nat.blt span.2 nought || Nat.ble (nought + 10) span.1) = true := by
    decide +kernel
  intro span hspan nought hnought
  have havoid := List.all_eq_true.mp (List.all_eq_true.mp hall span hspan) nought hnought
  rwa [Bool.or_eq_true, Nat.blt_eq, Nat.ble_eq] at havoid

theorem isNeutral_of_isDigit {c : Char} (h : isDigit c = true) : IsNeutral c := by
  obtain ⟨nought, hnought, hfrom, hto⟩ := block_of_isDigit h
  have houtside (spans : List (Nat × Nat)) (hspans : spans ⊆ casedSpans ++ caselessMarkSpans) :
      inSpans spans c.toNat = false := by
    unfold inSpans
    rw [List.any_eq_false]
    intro span hspan hin
    simp only [Bool.and_eq_true, decide_eq_true_eq] at hin
    have havoid := spans_avoid_digits span (hspans hspan) nought hnought
    omega
  exact ⟨isLow_of_isDigit h, houtside _ (List.subset_append_left _ _),
    houtside _ (List.subset_append_right _ _)⟩

/-- A small letter is a letter with case. -/
theorem isLower_of_isNeutral {c : Char} (h : IsNeutral c) : c.isLower = false := by
  apply Bool.eq_false_iff.mpr
  intro hlower
  obtain ⟨hfirst, hlast⟩ := bounds_of_isLower hlower
  have hcased : inSpans casedSpans c.toNat = true := by
    refine List.any_eq_true.mpr ⟨(0x61, 0x7A), by decide, ?_⟩
    simp [hfirst, hlast]
  exact Bool.false_ne_true (h.2.1.symm.trans hcased)

/-- A word that begins with a small letter is not found across characters without case. -/
theorem contains_neutral_append {needle : List Char} (h : needle.head?.any Char.isLower = true)
    (hfront : ∀ c ∈ front, IsNeutral c) (cs : List Char) :
    contains needle (front ++ cs) = contains needle cs := by
  refine contains_append_left (fun c hc hmem => ?_) cs
  rw [Option.mem_def.mp hc] at h
  exact nomatch h.symm.trans (isLower_of_isNeutral (hfront c hmem))

/-- A word that ends with a small letter is not found across characters without case. -/
theorem contains_append_neutral {needle : List Char} (h : needle.getLast?.any Char.isLower = true)
    (cs : List Char) (hback : ∀ c ∈ back, IsNeutral c) :
    contains needle (cs ++ back) = contains needle cs := by
  refine contains_append_right cs fun c hc hmem => ?_
  rw [Option.mem_def.mp hc] at h
  exact nomatch h.symm.trans (isLower_of_isNeutral (hback c hmem))

/-- Words that begin with small letters are not found across characters without case. -/
theorem any_contains_neutral_append {words : List String}
    (h : ∀ word ∈ words, word.toList.head?.any Char.isLower = true)
    (hfront : ∀ c ∈ front, IsNeutral c) (cs : List Char) :
    (words.any fun word => contains word.toList (front ++ cs)) = words.any fun word =>
      contains word.toList cs := by
  rw [Bool.eq_iff_iff, List.any_eq_true, List.any_eq_true]
  refine exists_congr fun word => and_congr_right fun hword => ?_
  rw [contains_neutral_append (h word hword) hfront]

/-- Words that end with small letters are not found across characters without case. -/
theorem any_contains_append_neutral {words : List String}
    (h : ∀ word ∈ words, word.toList.getLast?.any Char.isLower = true) (cs : List Char)
    (hback : ∀ c ∈ back, IsNeutral c) :
    (words.any fun word => contains word.toList (cs ++ back)) = words.any fun word =>
      contains word.toList cs := by
  rw [Bool.eq_iff_iff, List.any_eq_true, List.any_eq_true]
  refine exists_congr fun word => and_congr_right fun hword => ?_
  rw [contains_append_neutral (h word hword) cs hback]

/-- Beyond a neutral character no letter with case is looked for. -/
theorem nextIsCased_append_neutral {c : Char} (h : IsNeutral c) (cs ds : List Char) :
    nextIsCased (cs ++ c :: ds) = nextIsCased cs := by
  have hmark : ¬ inSpans caselessMarkSpans c.toNat = true := Bool.eq_false_iff.mp h.2.2
  unfold nextIsCased
  rw [List.dropWhile_append]
  cases hrest : cs.dropWhile fun c => inSpans caselessMarkSpans c.toNat with
  | nil =>
      have hdrop := List.dropWhile_cons_of_neg (p := fun c : Char =>
        inSpans caselessMarkSpans c.toNat) (l := ds) hmark
      rw [if_pos List.isEmpty_nil, hdrop]
      exact h.2.1
  | cons d rest => rw [if_neg (by simp), List.cons_append]

/-- What stands before a neutral character does not matter behind it. -/
theorem lowerFrom_beyond_neutral {c : Char} (h : IsNeutral c) (before beyond cs : List Char) :
    lowerFrom (before ++ c :: beyond) cs = lowerFrom before cs := by
  induction cs generalizing before with
  | nil => rfl
  | cons d cs ih =>
      rw [lowerFrom, lowerFrom, nextIsCased_append_neutral h, ← List.cons_append, ih]

theorem lowerFrom_cons_neutral {c : Char} (h : IsNeutral c) (before cs : List Char) :
    lowerFrom before (c :: cs) = c :: lower cs := by
  rw [lowerFrom, if_neg (by simpa using h.1.1), h.1.2]
  exact congrArg (c :: ·) (lowerFrom_beyond_neutral h [] before cs)

theorem lowerFrom_append_neutral {c : Char} (h : IsNeutral c) (before cs ds : List Char) :
    lowerFrom before (cs ++ c :: ds) = lowerFrom before cs ++ c :: lower ds := by
  induction cs generalizing before with
  | nil => exact lowerFrom_cons_neutral h before ds
  | cons d cs ih =>
      rw [List.cons_append, lowerFrom, lowerFrom, nextIsCased_append_neutral h, ih,
        List.append_assoc]

theorem lower_neutral_append (h : ∀ c ∈ front, IsNeutral c) (cs : List Char) :
    lower (front ++ cs) = front ++ lower cs := by
  induction front with
  | nil => rfl
  | cons c front ih =>
      obtain ⟨hc, hfront⟩ := List.forall_mem_cons.mp h
      rw [List.cons_append, lower, lowerFrom_cons_neutral hc, ih hfront, List.cons_append]

theorem lower_append_neutral (cs : List Char) (h : ∀ c ∈ back, IsNeutral c) :
    lower (cs ++ back) = lower cs ++ back := by
  cases back with
  | nil => rw [List.append_nil, List.append_nil]
  | cons c back =>
      obtain ⟨hc, hback⟩ := List.forall_mem_cons.mp h
      have hrest := lower_neutral_append hback []
      rw [List.append_nil, lower_nil, List.append_nil] at hrest
      rw [lower, lowerFrom_append_neutral hc, hrest]
      rfl

end BukuKas.Text
