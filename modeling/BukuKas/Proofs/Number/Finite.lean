import BukuKas.Proofs.Number.Size
import BukuKas.Score.Experience

/-!
# Finite amounts

A finite amount stays finite when it is divided by a thousand for its points, and one that is not
finite earns no points.

## Main results

* `snap_mul_of_onGrid` : what is a double already is not moved.
* `exists_points_iff` : an amount earns points exactly when it is finite.
-/

namespace BukuKas.Number

/-- Rounding leaves a quotient that lies on the grid as it is. -/
theorem snap_mul_of_onGrid {q den : Nat} (hden : 0 < den) (h : q % gridStep q = 0) :
    snap (q * den) den = q := by
  have hquotient : q * den / den = q := Nat.mul_div_cancel q hden
  have hstep : 0 < den * gridStep q := Nat.mul_pos hden (twoTo_pos _)
  have hparts : q / gridStep q * gridStep q = q := Nat.div_mul_cancel (Nat.dvd_of_mod_eq_zero h)
  have hscaled : q * den = q / gridStep q * (den * gridStep q) := by
    rw [Nat.mul_left_comm, hparts, Nat.mul_comm]
  show nearest (q * den) (den * gridStep (q * den / den)) * gridStep (q * den / den) = q
  rw [hquotient]
  rw [hscaled, nearest_mul _ hstep, hparts]

namespace Binary64

theorem finite_div_finite {p q : Int} (hp : OnGrid p.natAbs) (hq : OnGrid q.natAbs) (hpos : 0 < q) :
    (.finite p hp / .finite q hq : Binary64) = ofQuanta (p * quantaPerOne) q.natAbs := by
  show (if q = 0 then _ else ofQuanta (p * quantaPerOne * q.sign) q.natAbs) = _
  rw [if_neg (by omega), Int.sign_eq_one_of_pos hpos, Int.mul_one]

/-- A quotient by at least four is finite when what is divided is. -/
theorem isFinite_div_of_four_le {p q : Int} {hp : OnGrid p.natAbs} {hq : OnGrid q.natAbs}
    (hpos : 0 < q) (hfour : 4 * quantaPerOne ≤ q.natAbs) :
    (.finite p hp / .finite q hq : Binary64).isFinite = true := by
  have hsize : (p * (quantaPerOne : Int)).natAbs ≤ (p.natAbs / 4 + 1) * q.natAbs := by
    rw [Int.natAbs_mul, Int.natAbs_natCast]
    calc p.natAbs * quantaPerOne ≤ (p.natAbs / 4 + 1) * 4 * quantaPerOne :=
          Nat.mul_le_mul_right _ (by omega)
      _ = (p.natAbs / 4 + 1) * (4 * quantaPerOne) := Nat.mul_assoc _ 4 quantaPerOne
      _ ≤ (p.natAbs / 4 + 1) * q.natAbs := Nat.mul_le_mul_left _ hfour
  have hroom : 8 ≤ quantaLimit := twoTo_le_twoTo (show 3 ≤ 2098 by decide)
  have hlimit := hp.2
  have hsnap : snap (p * (quantaPerOne : Int)).natAbs q.natAbs < quantaLimit := by
    refine Nat.lt_of_le_of_lt (snap_le _ (Int.natAbs_pos.mpr (Int.ne_of_gt hpos)) hsize) ?_
    generalize quantaLimit = limit at hroom hlimit ⊢
    clear hfour hsize hp
    omega
  obtain ⟨r, hr, heq, -⟩ := ofQuanta_eq_finite hsnap
  rw [finite_div_finite hp hq hpos, heq]
  rfl

theorem thousand_eq : ∃ hgrid, (1000 : Binary64) = .finite (1000 * (quantaPerOne : Int)) hgrid :=
  ⟨by decide +kernel, by decide +kernel⟩

/-- A thousandth of what is finite is finite. -/
theorem isFinite_div_thousand {x : Binary64} (h : x.isFinite = true) :
    (x / 1000).isFinite = true := by
  cases x with
  | nan | infinite negative => exact nomatch h
  | finite p hp =>
      obtain ⟨hgrid, hthousand⟩ := thousand_eq
      have hpos : 0 < 1000 * (quantaPerOne : Int) :=
        Int.mul_pos (by decide) (Int.natCast_pos.mpr (twoTo_pos 1074))
      rw [hthousand]
      apply isFinite_div_of_four_le hpos
      rw [Int.natAbs_mul, Int.natAbs_natCast]
      exact Nat.mul_le_mul_right quantaPerOne (by decide)

end Binary64

end BukuKas.Number

namespace BukuKas

open Number (Binary64)

/-- An amount earns points exactly when it is finite. -/
theorem Score.exists_points_iff {amount : Binary64} :
    (∃ p, points amount = .ok p) ↔ amount.isFinite = true := by
  constructor
  · rintro ⟨p, hp⟩
    obtain ⟨hgrid, hthousand⟩ := Binary64.thousand_eq
    cases amount with
    | finite q hgrid => rfl
    | nan => exact nomatch hp
    | infinite negative =>
        unfold points at hp
        rw [hthousand] at hp
        exact nomatch hp
  · intro h
    have hfinite := Binary64.isFinite_div_thousand h
    unfold points
    cases hquotient : amount / 1000 with
    | nan | infinite negative =>
        rw [hquotient] at hfinite
        exact nomatch hfinite
    | finite q hgrid => exact ⟨_, rfl⟩

/-- Amounts earn points together exactly when all of them are finite. -/
theorem Score.exists_totalPoints_iff {amounts : List Binary64} :
    (∃ p, totalPoints amounts = .ok p) ↔ ∀ amount ∈ amounts, amount.isFinite = true := by
  induction amounts with
  | nil => exact ⟨fun _ => List.forall_mem_nil _, fun _ => ⟨0, rfl⟩⟩
  | cons amount rest ih =>
      rw [List.forall_mem_cons, ← exists_points_iff, ← ih, totalPoints]
      cases hfirst : points amount with
      | error fault => simp
      | ok p =>
          cases hrest : totalPoints rest with
          | error fault => simp
          | ok q => simp

end BukuKas
