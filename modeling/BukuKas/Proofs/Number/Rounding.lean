import BukuKas.Number.Binary64

/-!
# How far rounding goes

A quotient is rounded to a whole number at most half away, and to a double at most half a step away.
The steps of doubles are fine where amounts of money lie: below ten billions of thousands a step is
far less than a hundredth.

## Main results

* `nearest_error`, `snap_error` : how far rounding goes.
* `snap_hundredths_error` : how far a double is from the hundredths to which it is the nearest.
-/

namespace BukuKas.Number

/-! ## Whole numbers -/

/-- Rounding to a whole number goes at most half a unit up or down. -/
theorem nearest_error (num : Nat) {den : Nat} (h : 0 < den) :
    2 * (nearest num den * den) ≤ 2 * num + den ∧ 2 * num ≤ 2 * (nearest num den * den) + den := by
  have hparts : den * (num / den) + num % den = num := Nat.div_add_mod num den
  have hsmall : num % den < den := Nat.mod_lt num h
  have hnext : (num / den + 1) * den = den * (num / den) + den := by
    rw [Nat.add_mul, Nat.one_mul, Nat.mul_comm]
  have hsame : num / den * den = den * (num / den) := Nat.mul_comm _ _
  unfold nearest
  dsimp only
  split
  · omega
  · split
    · omega
    · rcases Nat.mod_two_eq_zero_or_one (num / den) with hparity | hparity
      · rw [hparity, Nat.add_zero]
        omega
      · rw [hparity]
        omega

/-- A quotient that is rounded to something is more than a half. -/
theorem lt_of_nearest_pos {num den : Nat} (h : 0 < nearest num den) : den < 2 * num := by
  apply Decidable.byContradiction
  intro hsmall
  have hzero : nearest num den = 0 := by
    unfold nearest
    dsimp only
    by_cases hnum : num = 0
    · simp [hnum]
    · have hlt : num < den := by omega
      rw [Nat.div_eq_of_lt hlt, Nat.mod_eq_of_lt hlt, if_neg (show ¬den < 2 * num by omega)]
      simp
  omega

/-! ## Doubles -/

theorem gridStep_le {n k : Nat} (h : n < twoTo (k + 53)) : gridStep n ≤ twoTo k := by
  apply twoTo_le_twoTo
  by_cases hzero : n = 0
  · rw [hzero]
    exact Nat.zero_le k
  · have hlog := log2_lt_of_lt_twoTo hzero h
    omega

/-- Rounding to a double goes at most half a step up or down. -/
theorem snap_error (num : Nat) {den : Nat} (h : 0 < den) :
    2 * (snap num den * den) ≤ 2 * num + den * gridStep (num / den) ∧
      2 * num ≤ 2 * (snap num den * den) + den * gridStep (num / den) := by
  have hstep : 0 < den * gridStep (num / den) := Nat.mul_pos h (twoTo_pos _)
  have hsnap : snap num den * den =
      nearest num (den * gridStep (num / den)) * (den * gridStep (num / den)) := by
    unfold snap
    rw [Nat.mul_assoc, Nat.mul_comm (gridStep (num / den)) den]
  rw [hsnap]
  exact nearest_error num hstep

/-- The bound of amounts for which a hundredth is many steps of doubles, in hundredths. -/
def fineLimit : Nat := tenTo 15

/-- In one there are five hundred and twelve steps of the doubles near amounts of money. -/
theorem quantaPerOne_eq_steps : quantaPerOne = 512 * twoTo 1065 := by
  unfold quantaPerOne
  rw [show 1074 = 9 + 1065 from rfl, twoTo_add, show twoTo 9 = 512 from rfl]

/-- The bound up to which steps are as small as that. -/
theorem moderate_eq : 0x100000000000 * quantaPerOne = twoTo (1065 + 53) := by
  unfold quantaPerOne
  rw [show 0x100000000000 = twoTo 44 from rfl, ← twoTo_add]

/-- The double nearest to hundredths lies less than a tenth of a hundredth away from them. -/
theorem snap_hundredths_error {n : Nat} (h : n < fineLimit) :
    102400 * snap (n * quantaPerOne) 100 ≤ 1024 * (n * quantaPerOne) + 100 * quantaPerOne ∧
      1024 * (n * quantaPerOne) ≤ 102400 * snap (n * quantaPerOne) 100 + 100 * quantaPerOne := by
  have hpos : 0 < quantaPerOne := twoTo_pos 1074
  have hfine : n * quantaPerOne ≤ 10 ^ 15 * quantaPerOne :=
    Nat.mul_le_mul_right _ (Nat.le_of_lt h)
  have hmoderate : n * quantaPerOne / 100 < twoTo (1065 + 53) := by
    rw [← moderate_eq]
    omega
  have hstep := gridStep_le hmoderate
  have hone := quantaPerOne_eq_steps
  obtain ⟨hup, hdown⟩ := snap_error (n * quantaPerOne) (show 0 < 100 by decide)
  omega

theorem snap_hundredths_lt {n : Nat} (h : n < fineLimit) :
    snap (n * quantaPerOne) 100 < quantaLimit := by
  have hlimit : 2 ^ 60 * quantaPerOne ≤ quantaLimit := by
    unfold quantaLimit quantaPerOne
    rw [show 2 ^ 60 = twoTo 60 from rfl, ← twoTo_add]
    exact twoTo_le_twoTo (by decide)
  have hpos : 0 < quantaPerOne := twoTo_pos 1074
  have hfine : n * quantaPerOne ≤ 10 ^ 15 * quantaPerOne :=
    Nat.mul_le_mul_right _ (Nat.le_of_lt h)
  have herror := (snap_hundredths_error h).1
  omega

/-- A quotient that is not too large is rounded to a double of its sign. -/
theorem Binary64.ofQuanta_eq_finite {num : Int} {den : Nat}
    (h : snap num.natAbs den < quantaLimit) :
    ∃ q hgrid, ofQuanta num den = .finite q hgrid ∧
      q = if num < 0 then -(snap num.natAbs den : Int) else snap num.natAbs den := by
  unfold ofQuanta
  dsimp only
  rw [dif_pos h]
  by_cases hneg : num < 0
  · exact ⟨_, _, if_pos hneg, (if_pos hneg).symm⟩
  · exact ⟨_, _, if_neg hneg, (if_neg hneg).symm⟩

end BukuKas.Number
