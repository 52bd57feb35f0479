import BukuKas.Proofs.Number.Size

/-!
# Doubles that are not negative

Such doubles compare like whole numbers: a finite one like its quanta, and the infinity like a
magnitude that no finite one reaches.  Their sums are not negative either, and so they are numbers.

## Main results

* `lt_iff_level` : comparison through whole numbers.
* `sum_nonneg` : a sum of doubles that are not negative is not negative.
-/

namespace BukuKas.Number.Binary64

variable {x y : Binary64}

/-- A double that is not negative is the infinity or has as many quanta. -/
theorem cases_of_nonneg (h : 0 ≤ x) :
    x = .infinite false ∨ ∃ q hgrid, x = .finite q hgrid ∧ 0 ≤ q := by
  obtain ⟨hzero, hzeroEq⟩ := zero_eq
  have hle : le 0 x = true := h
  rw [hzeroEq] at hle
  cases x with
  | nan => exact nomatch hle
  | infinite negative =>
      cases negative with
      | false => exact .inl rfl
      | true => exact nomatch hle
  | finite q hgrid => exact .inr ⟨q, hgrid, rfl, of_decide_eq_true hle⟩

theorem finite_nonneg {q : Int} (hgrid : OnGrid q.natAbs) (h : 0 ≤ q) :
    0 ≤ (.finite q hgrid : Binary64) := by
  obtain ⟨hzero, hzeroEq⟩ := zero_eq
  rw [hzeroEq]
  exact decide_eq_true h

theorem infinite_nonneg : (0 : Binary64) ≤ .infinite false := by
  obtain ⟨hzero, hzeroEq⟩ := zero_eq
  rw [hzeroEq]
  rfl

/-! ## Sums -/

theorem ofQuanta_nonneg {num : Int} (den : Nat) (h : 0 ≤ num) : 0 ≤ ofQuanta num den := by
  by_cases hsize : snap num.natAbs den < quantaLimit
  · obtain ⟨q, hgrid, heq, hq⟩ := ofQuanta_eq_finite hsize
    rw [if_neg (by omega)] at hq
    rw [heq]
    exact finite_nonneg hgrid (by omega)
  · have heq : ofQuanta num den = .infinite false := by
      unfold ofQuanta
      dsimp only
      rw [dif_neg hsize, decide_eq_false (by omega)]
    rw [heq]
    exact infinite_nonneg

theorem add_nonneg (hx : 0 ≤ x) (hy : 0 ≤ y) : 0 ≤ x + y := by
  rcases cases_of_nonneg hx with rfl | ⟨p, hp, rfl, hpos⟩ <;>
    rcases cases_of_nonneg hy with rfl | ⟨q, hq, rfl, hqos⟩
  · exact infinite_nonneg
  · exact infinite_nonneg
  · exact infinite_nonneg
  · rw [finite_add_finite]
    exact ofQuanta_nonneg 1 (by omega)

theorem sum_append_singleton (xs : List Binary64) (x : Binary64) :
    sum (xs ++ [x]) = sum xs + x := by
  simp [sum]

theorem foldl_nonneg {xs : List Binary64} (h : ∀ x ∈ xs, 0 ≤ x) (hy : 0 ≤ y) :
    0 ≤ xs.foldl (· + ·) y := by
  induction xs generalizing y with
  | nil => exact hy
  | cons x xs ih =>
      exact ih (fun z hz => h z (List.mem_cons_of_mem x hz))
        (add_nonneg hy (h x List.mem_cons_self))

/-- A sum of doubles that are not negative is not negative. -/
theorem sum_nonneg {xs : List Binary64} (h : ∀ x ∈ xs, 0 ≤ x) : 0 ≤ sum xs :=
  foldl_nonneg h (by decide +kernel)

/-! ## Comparison -/

/-- The quanta of a double that is not negative, the infinity beyond all others. -/
def level : Binary64 → Int
  | .finite q _ => q
  | _ => quantaLimit

/-- Doubles that are not negative compare like their levels. -/
theorem lt_iff_level (hx : 0 ≤ x) (hy : 0 ≤ y) : x < y ↔ x.level < y.level := by
  rcases cases_of_nonneg hx with rfl | ⟨p, hp, rfl, -⟩ <;>
    rcases cases_of_nonneg hy with rfl | ⟨q, hq, rfl, -⟩
  · exact iff_of_false (lt_irrefl _) (Int.lt_irrefl _)
  · have hlimit := hq.2
    refine iff_of_false (mt infinite_lt_finite_iff.mp Bool.false_ne_true) ?_
    simp only [level]
    omega
  · have hlimit := hp.2
    refine iff_of_true (finite_lt_infinite_iff.mpr rfl) ?_
    simp only [level]
    omega
  · exact finite_lt_iff

theorem level_inj (hx : 0 ≤ x) (hy : 0 ≤ y) (h : x.level = y.level) : x = y := by
  rcases cases_of_nonneg hx with rfl | ⟨p, hp, rfl, -⟩ <;>
    rcases cases_of_nonneg hy with rfl | ⟨q, hq, rfl, -⟩
  · rfl
  · have hlimit := hq.2
    simp only [level] at h
    omega
  · have hlimit := hp.2
    simp only [level] at h
    omega
  · obtain rfl : p = q := h
    rfl

end BukuKas.Number.Binary64
