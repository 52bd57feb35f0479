import BukuKas.Proofs.Number.Finite

/-!
# Rounding keeps the order

A larger quotient is never rounded to a smaller number.  Where the steps of doubles are the same,
rounding is that to whole numbers.  Where they differ, a power of two lies between both quotients;
it is a double on both sides, so neither of them crosses it.

## Main results

* `le_snap` : a bound on the grid is kept by rounding.
* `snap_mono` : rounding keeps the order.
* `Binary64.add_zero`, `Binary64.sum_filter` : adding nothing changes nothing.
-/

namespace BukuKas.Number

theorem nearest_mono {num other : Nat} (den : Nat) (h : num ≤ other) :
    nearest num den ≤ nearest other den := by
  rcases Nat.lt_or_eq_of_le (Nat.div_le_div_right (c := den) h) with hlt | heq
  · calc nearest num den ≤ num / den + 1 := nearest_le_succ num den
      _ ≤ other / den := hlt
      _ ≤ nearest other den := div_le_nearest other den
  · -- the same whole number, so the rests decide
    have hrest : num % den ≤ other % den := by
      have hfirst := Nat.div_add_mod num den
      have hsecond := Nat.div_add_mod other den
      rw [heq] at hfirst
      omega
    unfold nearest
    dsimp only
    rw [heq]
    split
    · split
      · exact Nat.le_refl _
      · split <;> omega
    · split
      · apply Nat.le_of_eq
        rw [if_neg (by omega), if_pos (by omega)]
      · have hparity := Nat.mod_lt (other / den) (show 2 > 0 by decide)
        rw [if_neg (by omega)]
        split <;> omega

theorem gridStep_dvd {n k : Nat} (h : n < twoTo (k + 53)) : gridStep n ∣ twoTo k := by
  apply twoTo_dvd_twoTo
  by_cases hzero : n = 0
  · rw [hzero]
    exact Nat.zero_le k
  · have hlog := log2_lt_of_lt_twoTo hzero h
    omega

/-- A quotient that has reached a bound on the grid stays there when it is rounded. -/
theorem le_snap {num den bound : Nat} (hden : 0 < den) (hgrid : gridStep (num / den) ∣ bound)
    (h : bound * den ≤ num) : bound ≤ snap num den := by
  unfold snap
  dsimp only
  generalize hstep : gridStep (num / den) = step at hgrid
  have hpos : 0 < step := hstep ▸ twoTo_pos _
  obtain ⟨j, rfl⟩ := hgrid
  have hquotient : j ≤ num / (den * step) := by
    apply (Nat.le_div_iff_mul_le (Nat.mul_pos hden hpos)).mpr
    rw [← Nat.mul_assoc, Nat.mul_right_comm, Nat.mul_comm j step]
    exact h
  rw [Nat.mul_comm step j]
  exact Nat.mul_le_mul_right step (Nat.le_trans hquotient (div_le_nearest _ _))

/-- A quotient that has not passed a bound on the grid does not pass it when it is rounded. -/
theorem snap_le_bound {num den bound : Nat} (hden : 0 < den) (hgrid : gridStep (num / den) ∣ bound)
    (h : num ≤ bound * den) : snap num den ≤ bound := by
  unfold snap
  dsimp only
  generalize hstep : gridStep (num / den) = step at hgrid
  have hpos : 0 < den * step := Nat.mul_pos hden (hstep ▸ twoTo_pos _)
  obtain ⟨j, rfl⟩ := hgrid
  have hscaled : step * j * den = j * (den * step) := by
    rw [Nat.mul_comm step j, Nat.mul_assoc, Nat.mul_comm step den]
  have hnearest := nearest_mono (den * step) (hscaled ▸ h)
  rw [nearest_mul j hpos] at hnearest
  rw [Nat.mul_comm step j]
  exact Nat.mul_le_mul_right step hnearest

/-- Rounding keeps the order. -/
theorem snap_mono {num other den : Nat} (hden : 0 < den) (h : num ≤ other) :
    snap num den ≤ snap other den := by
  have hquotients : num / den ≤ other / den := Nat.div_le_div_right h
  by_cases hlog : (num / den).log2 = (other / den).log2
  · unfold snap gridStep
    dsimp only
    rw [hlog]
    exact Nat.mul_le_mul_right _ (nearest_mono _ h)
  · -- the power of two at the larger quotient lies between them
    have hother : other / den ≠ 0 := by
      intro hzero
      rw [hzero, Nat.le_zero] at hquotients
      exact hlog (by rw [hzero, hquotients])
    have hbelow : num / den < twoTo (other / den).log2 := by
      refine Nat.not_le.mp fun habove => ?_
      have hnum : num / den ≠ 0 :=
        fun hzero => absurd (hzero ▸ habove) (Nat.not_le.mpr (twoTo_pos _))
      have hlow := (Nat.le_log2 hnum).mpr habove
      have hhigh := log2_lt_of_lt_twoTo hnum (Nat.lt_of_le_of_lt hquotients (lt_twoTo_log2_succ _))
      omega
    have hle : snap num den ≤ twoTo (other / den).log2 := by
      refine snap_le_bound hden (gridStep_dvd ?_) ?_
      · exact Nat.lt_of_lt_of_le hbelow (twoTo_le_twoTo (Nat.le_add_right _ _))
      · exact Nat.le_of_lt ((Nat.div_lt_iff_lt_mul hden).mp hbelow)
    have hge : twoTo (other / den).log2 ≤ snap other den := by
      refine le_snap hden (gridStep_dvd ?_) ?_
      · exact Nat.lt_of_lt_of_le (lt_twoTo_log2_succ _) (twoTo_le_twoTo (by omega))
      · exact (Nat.le_div_iff_mul_le hden).mp (Nat.log2_self_le hother)
    exact Nat.le_trans hle hge

namespace Binary64

/-- A quotient of natural numbers is rounded to a double that is not negative. -/
theorem exists_ofQuanta_eq {num den : Nat} (h : snap num den < quantaLimit) :
    ∃ hgrid, ofQuanta (num : Int) den = .finite (snap num den : Int) hgrid := by
  have hsize : snap (num : Int).natAbs den < quantaLimit := by rwa [Int.natAbs_natCast]
  obtain ⟨q, hgrid, heq, hq⟩ := ofQuanta_eq_finite hsize
  rw [if_neg (Int.not_lt.mpr (Int.natCast_nonneg num)), Int.natAbs_natCast] at hq
  subst hq
  exact ⟨hgrid, heq⟩

/-- A quotient of natural numbers that is too large is rounded to the infinity. -/
theorem ofQuanta_of_large {num den : Nat} (h : ¬snap num den < quantaLimit) :
    ofQuanta (num : Int) den = .infinite false := by
  have hsize : ¬snap (num : Int).natAbs den < quantaLimit := by rwa [Int.natAbs_natCast]
  unfold ofQuanta
  dsimp only
  rw [dif_neg hsize, decide_eq_false (Int.not_lt.mpr (Int.natCast_nonneg num))]

theorem le_infinite {x : Binary64} (h : x ≠ .nan) : x ≤ .infinite false := by
  cases x with
  | nan => exact absurd rfl h
  | infinite negative => exact Bool.or_true negative
  | finite q hgrid => rfl

theorem ofQuanta_mono {num other den : Nat} (hden : 0 < den) (h : num ≤ other) :
    ofQuanta (num : Int) den ≤ ofQuanta (other : Int) den := by
  have hsnap := snap_mono hden h
  by_cases hother : snap other den < quantaLimit
  · obtain ⟨_, hfirst⟩ := exists_ofQuanta_eq (Nat.lt_of_le_of_lt hsnap hother)
    obtain ⟨_, hsecond⟩ := exists_ofQuanta_eq hother
    rw [hfirst, hsecond]
    exact decide_eq_true (Int.ofNat_le.mpr hsnap)
  · rw [ofQuanta_of_large hother]
    exact le_infinite (ofQuanta_ne_nan _ _)

/-- A whole number of quanta on the grid is a double as it is. -/
theorem ofQuanta_of_onGrid {q : Int} (h : OnGrid q.natAbs) : ofQuanta q 1 = .finite q h := by
  have hsnap := snap_mul_of_onGrid Nat.one_pos h.1
  rw [Nat.mul_one] at hsnap
  have hsize : snap q.natAbs 1 < quantaLimit := Nat.lt_of_le_of_lt (Nat.le_of_eq hsnap) h.2
  obtain ⟨r, hr, heq, hsign⟩ := ofQuanta_eq_finite hsize
  rw [hsnap] at hsign
  obtain rfl : r = q := by split at hsign <;> omega
  exact heq

/-- Adding nothing changes nothing. -/
@[simp] theorem add_zero (x : Binary64) : x + 0 = x := by
  obtain ⟨hzero, hzeroEq⟩ := zero_eq
  rw [hzeroEq]
  cases x with
  | nan | infinite negative => rfl
  | finite q hgrid =>
      rw [finite_add_finite]
      simp only [Int.add_zero]
      exact ofQuanta_of_onGrid hgrid

/-- What adds nothing need not be added. -/
theorem sum_filter {α : Type} {p : α → Bool} {f : α → Binary64} {xs : List α}
    (h : ∀ x ∈ xs, p x = false → f x = 0) : sum ((xs.filter p).map f) = sum (xs.map f) := by
  have hfrom : ∀ before : Binary64, ((xs.filter p).map f).foldl (· + ·) before =
      (xs.map f).foldl (· + ·) before := by
    induction xs with
    | nil => exact fun _ => rfl
    | cons x xs ih =>
        intro before
        have hrest := ih fun y hy => h y (List.mem_cons_of_mem x hy)
        cases hp : p x with
        | true => rw [List.filter_cons_of_pos hp, List.map_cons, List.map_cons, List.foldl_cons,
            List.foldl_cons, hrest]
        | false => rw [List.filter_cons_of_neg (by simp [hp]), List.map_cons, List.foldl_cons,
            h x List.mem_cons_self hp, add_zero, hrest]
  exact hfrom 0

end Binary64

end BukuKas.Number
