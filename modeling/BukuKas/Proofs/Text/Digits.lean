import BukuKas.Number.Numeral
import BukuKas.Proofs.Text.Part

/-!
# Digits in a text

Digits survive whatever is done to a text before it is read.  They are no blanks, so they are not
trimmed; they are their own lower case; and words without digits are not found among them.  A number
that is written in ten digits is read as itself.

## Main results

* `trim_of_ends`, `trim_trim` : what trimming leaves as it is.
* `mem_lowerFrom_of_isLow`, `lowerFrom_of_isLow` : what lower case leaves as it is.
* `contains_append_digits` : digits behind a text do not matter when words are looked for.
* `writes_toString` : a number is read as it is written.
-/

namespace BukuKas.Text

/-! ## Trimming -/

theorem dropWhile_of_head? {p : Char → Bool} {cs : List Char} (h : ∀ c ∈ cs.head?, p c = false) :
    cs.dropWhile p = cs := by
  cases cs with
  | nil => rfl
  | cons c cs => exact List.dropWhile_cons_of_neg (Bool.eq_false_iff.mp (h c rfl))

/-- A text with no blank at its ends is not trimmed. -/
theorem trim_of_ends {cs : List Char} (hhead : ∀ c ∈ cs.head?, isBlank c = false)
    (hlast : ∀ c ∈ cs.getLast?, isBlank c = false) : trim cs = cs := by
  have hback : ∀ c ∈ cs.reverse.head?, isBlank c = false := by
    rw [List.head?_reverse]
    exact hlast
  unfold trim stripEnds
  rw [dropWhile_of_head? hhead, dropWhile_of_head? hback, List.reverse_reverse]

theorem head?_dropWhile (p : Char → Bool) (cs : List Char) :
    ∀ c ∈ (cs.dropWhile p).head?, p c = false := by
  intro c hc
  have hnot := List.head?_dropWhile_not p cs
  rw [Option.mem_def.mp hc] at hnot
  exact Bool.eq_false_iff.mpr (by simpa using hnot)

/-- What is stripped off the ends of a text does not stand there any more. -/
theorem ends_stripEnds (p : Char → Bool) (cs : List Char) :
    (∀ c ∈ (stripEnds p cs).head?, p c = false) ∧ ∀ c ∈ (stripEnds p cs).getLast?, p c = false := by
  unfold stripEnds
  rw [List.head?_reverse, List.getLast?_reverse]
  refine ⟨fun c hc => ?_, head?_dropWhile p _⟩
  obtain ⟨front, hfront⟩ := List.dropWhile_suffix p (l := (cs.dropWhile p).reverse)
  have hlast : c ∈ (cs.dropWhile p).reverse.getLast? := by
    rw [← hfront, List.getLast?_append, Option.mem_def.mp hc]
    rfl
  rw [List.getLast?_reverse] at hlast
  exact head?_dropWhile p cs c hlast

/-- A trimmed text has no blank at its ends. -/
theorem ends_trim (cs : List Char) :
    (∀ c ∈ (trim cs).head?, isBlank c = false) ∧ ∀ c ∈ (trim cs).getLast?, isBlank c = false :=
  ends_stripEnds isBlank cs

@[simp] theorem trim_trim (cs : List Char) : trim (trim cs) = trim cs :=
  trim_of_ends (ends_trim cs).1 (ends_trim cs).2

/-- A digit is no blank. -/
theorem isBlank_of_isDigit {c : Char} (h : isDigit c = true) : isBlank c = false := by
  obtain ⟨nought, hnought, hfrom, hto⟩ := block_of_isDigit h
  have hall : ∀ nought ∈ zeroDigits, ∀ k < 10, isBlank (Char.ofNat (nought + k)) = false := by
    decide +kernel
  have hc := hall nought hnought (c.toNat - nought) (by omega)
  rwa [Nat.add_sub_cancel' hfrom, Char.ofNat_toNat] at hc

/-! ## Lower case -/

/-- No run of the lower case begins in a block of digits. -/
theorem lowerRuns_pass_digits : ∀ run ∈ lowerRuns, ∀ nought ∈ zeroDigits,
    run.last < nought ∨ nought + 10 ≤ run.first := by
  decide +kernel

/-- A digit is its own lower case. -/
theorem lowerChar_of_isDigit {c : Char} (h : isDigit c = true) : lowerChar c = [c] := by
  unfold lowerChar
  split
  · rename_i hascii
    have hall : ∀ n < 0x80, isDigit (Char.ofNat n) = true →
        (Char.ofNat n).toLower = Char.ofNat n := by decide +kernel
    have hc := hall c.toNat hascii
    rw [Char.ofNat_toNat] at hc
    rw [hc h]
  · unfold mapCase
    have hlookup : lowerExpansions.lookup c.toNat = none := by
      have hall : ∀ expansion ∈ lowerExpansions, isDigit (Char.ofNat expansion.1) = false := by
        decide +kernel
      rw [List.lookup_eq_none_iff]
      intro expansion hmem
      apply bne_iff_ne.mpr
      intro heq
      have hnot := hall expansion hmem
      rw [← heq, Char.ofNat_toNat] at hnot
      exact nomatch h.symm.trans hnot
    have hmove : CaseRun.move? lowerRuns c.toNat = none := by
      obtain ⟨nought, hnought, hfrom, hto⟩ := block_of_isDigit h
      unfold CaseRun.move?
      rw [Option.map_eq_none_iff, List.find?_eq_none]
      intro run hrun hrange
      simp only [Bool.and_eq_true, decide_eq_true_eq] at hrange
      have hpass := lowerRuns_pass_digits run hrun nought hnought
      omega
    rw [hlookup, hmove]
    rfl

/-- The character is its own lower case wherever it stands. -/
def IsLow (c : Char) : Prop := c ≠ '\u03A3' ∧ lowerChar c = [c]

instance (c : Char) : Decidable (IsLow c) := inferInstanceAs (Decidable (_ ∧ _))

theorem isLow_of_all {cs : List Char} (h : cs.all (fun c => decide (IsLow c)) = true) :
    ∀ c ∈ cs, IsLow c := fun c hc => of_decide_eq_true (List.all_eq_true.mp h c hc)

theorem isLow_of_isDigit {c : Char} (h : isDigit c = true) : IsLow c := by
  refine ⟨?_, lowerChar_of_isDigit h⟩
  rintro rfl
  exact absurd h (by decide)

/-- A text of characters that are their own lower case is its own. -/
theorem lowerFrom_of_isLow {cs : List Char} (h : ∀ c ∈ cs, IsLow c) (before : List Char) :
    lowerFrom before cs = cs := by
  induction cs generalizing before with
  | nil => rfl
  | cons c cs ih =>
      obtain ⟨hsigma, hlow⟩ := h c List.mem_cons_self
      rw [lowerFrom, if_neg (by simpa using hsigma), hlow,
        ih (fun d hd => h d (List.mem_cons_of_mem c hd))]
      rfl

/-- A character that is its own lower case is left where it is. -/
theorem mem_lowerFrom_of_isLow {c : Char} (hlow : IsLow c) {cs : List Char} (h : c ∈ cs)
    (before : List Char) : c ∈ lowerFrom before cs := by
  induction cs generalizing before with
  | nil => exact nomatch h
  | cons d cs ih =>
      rw [lowerFrom]
      rcases List.mem_cons.mp h with rfl | h
      · rw [if_neg (by simpa using hlow.1), hlow.2]
        exact List.mem_append_left _ List.mem_cons_self
      · exact List.mem_append_right _ (ih h (d :: before))

/-! ## Looking for words -/

theorem contains_eq_true_iff {needle cs : List Char} :
    contains needle cs = true ↔ needle <:+: cs := by
  induction cs with
  | nil => simp [contains]
  | cons c cs ih =>
      rw [contains, Bool.or_eq_true, List.isPrefixOf_iff_prefix, ih, List.infix_cons_iff]

/-- Words without digits are not found among digits behind a text. -/
theorem contains_append_digits {needle : List Char} (hneedle : ∀ d ∈ needle, isDigit d = false)
    (cs : List Char) {ds : List Char} (hds : ∀ d ∈ ds, isDigit d = true) :
    contains needle (cs ++ ds) = contains needle cs := by
  have hnil {part : List Char} (hletters : part ⊆ needle) (hdigits : part ⊆ ds) : part = [] := by
    refine List.eq_nil_iff_forall_not_mem.mpr fun d hd => ?_
    exact nomatch (hds d (hdigits hd)).symm.trans (hneedle d (hletters hd))
  rw [Bool.eq_iff_iff, contains_eq_true_iff, contains_eq_true_iff]
  refine ⟨?_, fun h => h.trans (List.prefix_append cs ds).isInfix⟩
  rintro ⟨front, back, hsplit⟩
  rcases List.append_eq_append_iff.mp hsplit with ⟨part, hcs, -⟩ | ⟨part, hfront, hback⟩
  · exact ⟨front, part, hcs.symm⟩
  · have hpart : part ⊆ ds := by simp [hback]
    rcases List.append_eq_append_iff.mp hfront with ⟨start, hcs, hneedle'⟩ | ⟨rest, -, hrest⟩
    · rw [hnil (by simp [hneedle']) hpart, List.append_nil] at hneedle'
      exact ⟨front, [], by rw [List.append_nil, hcs, hneedle']⟩
    · have hempty : needle = [] := hnil (List.Subset.refl _) fun d hd => hpart (by simp [hrest, hd])
      rw [hempty]
      exact List.nil_infix

end BukuKas.Text

namespace BukuKas.Number

open Text (digitValue digitValue? isDigit)

/-! ## Numbers as they are written -/

theorem digitValue_of_ascii {c : Char} (h : c.isDigit = true) :
    digitValue c = c.toNat - '0'.toNat := by
  simp only [Char.isDigit, Bool.and_eq_true, decide_eq_true_eq, UInt32.le_iff_toNat_le] at h
  have hfrom : 48 ≤ c.toNat := h.1
  have hto : c.toNat ≤ 57 := h.2
  unfold digitValue digitValue?
  rw [if_pos (by omega), if_pos (by simp; omega)]
  rfl

/-- Ten digits have the values that they are written for. -/
theorem natOfDigits_of_ascii {cs : List Char} (h : ∀ c ∈ cs, c.isDigit = true) :
    natOfDigits cs = Nat.ofDigitChars 10 cs 0 := by
  have hfrom (start : Nat) :
      cs.foldl (fun n c => 10 * n + digitValue c) start = Nat.ofDigitChars 10 cs start := by
    induction cs generalizing start with
    | nil => rfl
    | cons c cs ih =>
        obtain ⟨hc, hcs⟩ := List.forall_mem_cons.mp h
        rw [List.foldl_cons, ih hcs, digitValue_of_ascii hc]
        rfl
  exact hfrom 0

/-- The text is a numeral of a number, and not too long to be read. -/
structure Writes (numeral : List Char) (n : Nat) : Prop where
  nonempty : numeral ≠ []
  digits : ∀ d ∈ numeral, isDigit d = true
  short : numeral.length ≤ maxDigits
  value : natOfDigits numeral = n

/-- A number that is not too long to be read is read as it is written. -/
theorem writes_toString {n : Nat} (h : n < tenTo maxDigits) : Writes (toString n).toList n := by
  have hwritten : (toString n).toList = Nat.toDigits 10 n := by
    rw [Nat.toString_eq_repr, Nat.toList_repr]
  have hdigits : ∀ c ∈ Nat.toDigits 10 n, c.isDigit = true := fun c hc =>
    Nat.isDigit_of_mem_toDigits (by decide) (by decide) hc
  -- stated for any exponent, so that the power of ten is not worked out
  have hlength {k : Nat} (hpos : 0 < k) (hk : n < tenTo k) : (Nat.toDigits 10 n).length ≤ k :=
    (Nat.length_toDigits_le_iff (by decide) hpos).mpr hk
  rw [hwritten]
  refine ⟨Nat.toDigits_ne_nil, fun d hd => Text.isDigit_of_ascii (hdigits d hd), ?_, ?_⟩
  · exact hlength (by decide) h
  · rw [natOfDigits_of_ascii hdigits, Nat.ofDigitChars_toDigits (by decide) (by decide)]

/-! ## Signs -/

/-- A whole number without a sign. -/
def unsigned? (cs : List Char) : Option Nat :=
  (digitsBetweenLines? cs).bind fun found => (readNat found).toOption

theorem readInt?_minus (cs : List Char) :
    readInt? ('-' :: cs) = (unsigned? cs).map fun n : Nat => -(n : Int) := by
  show ((unsigned? cs).bind fun n => some (n : Int)).map (fun n => -n) = _
  cases unsigned? cs <;> rfl

theorem readInt?_plus (cs : List Char) : readInt? ('+' :: cs) = (unsigned? cs).map Int.ofNat := rfl

theorem readInt?_of_ne {c : Char} (hminus : c ≠ '-') (hplus : c ≠ '+') (cs : List Char) :
    readInt? (c :: cs) = (unsigned? (c :: cs)).map Int.ofNat := by
  unfold readInt?
  split
  · rename_i heq
    exact absurd (List.cons.inj heq).1 hminus
  · rename_i heq
    exact absurd (List.cons.inj heq).1 hplus
  · rfl

end BukuKas.Number
