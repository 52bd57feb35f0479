import BukuKas.Proofs.Text.Cut
import BukuKas.Proofs.Text.Part

/-!
# Upper case

A character that is made large becomes letters, or stays what it is.  So nothing that cuts or marks
a text, no digit, blank, sign or mark, comes up in upper case that was not there before.

## Main results

* `upperChar_cases` : what a character becomes in upper case.
-/

namespace BukuKas.Text

/-- The code points that are no letters: the signs at the beginning of ASCII, the digits, the
blanks, and those of no character. -/
def signSpans : List (Nat × Nat) :=
  (0x00, 0x40) :: (0xD800, 0xDFFF) :: (zeroDigits.map fun n => (n, n + 9)) ++
    blankNumbers.map fun n => (n, n)

/-- Whether the character is no digit, no blank and no sign. -/
def isUnsigned (c : Char) : Bool := !inSpans signSpans c.toNat

theorem isDigit_of_isUnsigned {c : Char} (h : isUnsigned c = true) : isDigit c = false := by
  apply Bool.eq_false_iff.mpr
  intro hdigit
  obtain ⟨nought, hnought, hfrom, hto⟩ := block_of_isDigit hdigit
  have hin : inSpans signSpans c.toNat = true := by
    apply List.any_eq_true.mpr
    refine ⟨(nought, nought + 9), ?_, ?_⟩
    · simp [signSpans, hnought]
    · simp only [Bool.and_eq_true, decide_eq_true_eq]
      omega
  simp [isUnsigned, hin] at h

theorem isBlank_of_isUnsigned {c : Char} (h : isUnsigned c = true) : isBlank c = false := by
  apply Bool.eq_false_iff.mpr
  intro hblank
  have hall : blankNumbers.all (fun n => !isUnsigned (Char.ofNat n)) = true := by decide +kernel
  have hc := of_isBlank (p := fun c => !isUnsigned c) hall hblank
  simp [h] at hc

theorem ne_of_isUnsigned {c d : Char} (h : isUnsigned c = true) (hd : isUnsigned d = false) :
    c ≠ d := by
  rintro rfl
  simp [h] at hd

/-- Letters are moved to letters, as far as the first and the last one of a run tell. -/
theorem upperRuns_avoid_signs :
    upperRuns.all (fun run => Nat.blt (run.last + run.shift).toNat 0x110000 &&
    signSpans.all fun span => Nat.blt (run.last + run.shift).toNat span.1 ||
      Nat.blt span.2 (run.first + run.shift).toNat) = true := by
  decide +kernel

theorem isUnsigned_move {n moved : Nat} (h : CaseRun.move? upperRuns n = some moved) :
    isUnsigned (Char.ofNat moved) = true := by
  obtain ⟨run, hfind, hmoved⟩ := Option.map_eq_some_iff.mp h
  have hrange := List.find?_some hfind
  have havoid := List.all_eq_true.mp upperRuns_avoid_signs run (List.mem_of_find?_eq_some hfind)
  simp only [Bool.and_eq_true, decide_eq_true_eq] at hrange
  simp only [Bool.and_eq_true, Nat.blt_eq, List.all_eq_true, Bool.or_eq_true] at havoid
  have hbetween : (run.first + run.shift).toNat ≤ moved ∧ moved ≤ (run.last + run.shift).toNat := by
    have hshift : moved = ((n : Int) + run.shift).toNat := hmoved.symm
    omega
  have houtside : inSpans signSpans moved = false := by
    apply List.any_eq_false.mpr
    intro span hspan hin
    have hspanAvoid := havoid.2 span hspan
    simp only [Bool.and_eq_true, decide_eq_true_eq] at hin
    omega
  have hvalid : moved.isValidChar := by
    have hsurrogate := havoid.2 (0xD800, 0xDFFF) (by decide)
    have hlast := havoid.1
    simp only at hsurrogate
    unfold Nat.isValidChar
    omega
  have hnumber : (Char.ofNat moved).toNat = moved := by
    rw [Char.ofNat, dif_pos hvalid]
    rfl
  simp [isUnsigned, hnumber, houtside]

theorem upperExpansions_avoid_signs : upperExpansions.all (fun expansion =>
    expansion.2.all fun n => isUnsigned (Char.ofNat n)) = true := by
  decide +kernel

/-- An ASCII character is its own upper case, or is moved to a letter. -/
theorem toUpper_cases {c : Char} (h : c.toNat < 0x80) :
    c.toUpper = c ∨ isUnsigned c.toUpper = true := by
  have hall : ∀ n < 0x80, (Char.ofNat n).toUpper = Char.ofNat n ∨
      isUnsigned (Char.ofNat n).toUpper = true := by
    decide +kernel
  have hc := hall c.toNat h
  rwa [Char.ofNat_toNat] at hc

/-- A character is its own upper case, or its upper case consists of letters. -/
theorem upperChar_cases (c : Char) :
    upperChar c = [c] ∨ ∀ d ∈ upperChar c, isUnsigned d = true := by
  unfold upperChar
  split
  · rename_i hascii
    rcases toUpper_cases hascii with hsame | hletter
    · simp [hsame]
    · simp [hletter]
  · unfold mapCase
    cases hlookup : upperExpansions.lookup c.toNat with
    | some points =>
        obtain ⟨earlier, later, htable, -⟩ := List.lookup_eq_some_iff.mp hlookup
        have hmem : (c.toNat, points) ∈ upperExpansions := by simp [htable]
        have hletters := List.all_eq_true.mp upperExpansions_avoid_signs _ hmem
        right
        simpa using hletters
    | none =>
        cases hmove : CaseRun.move? upperRuns c.toNat with
        | none => simp
        | some moved => simp [isUnsigned_move hmove]

end BukuKas.Text
