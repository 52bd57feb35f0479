import BukuKas.Number.Decimal
import BukuKas.Proofs.Number.Monotone

/-!
# How far a decimal is from its double

The decimal with which a double is written is read as the double again, so it lies within half a
step of it.  Where amounts of money lie such a step is far below a hundredth: the hundredths of the
decimal are those of the double up to a little more than half of one, and a double that was read
from hundredths has them again.

## Main results

* `Decimal.quanta_shortest` : what is written is read again.
* `Decimal.near` : how far the hundredths of a decimal are from its double.
* `Decimal.hundredths_shortest` : hundredths are found again.
* `Decimal.one_le_hundredths` : a double above half a hundredth has a hundredth.
-/

namespace BukuKas.Number

/-- Rounding depends on a quotient only, and not on how it is written. -/
theorem snap_scale (num den : Nat) {k : Nat} (hk : 0 < k) :
    snap (num * k) (den * k) = snap num den := by
  have hnearest : ∀ step, nearest (num * k) (den * k * step) = nearest num (den * step) := by
    intro step
    unfold nearest
    dsimp only
    have htwice : 2 * (num % (den * step) * k) = 2 * (num % (den * step)) * k := by
      rw [Nat.mul_assoc]
    rw [Nat.mul_right_comm den k, Nat.mul_div_mul_right num (den * step) hk,
      Nat.mul_mod_mul_right, htwice]
    simp only [Nat.mul_lt_mul_right hk]
  unfold snap
  dsimp only
  rw [Nat.mul_div_mul_right num den hk, hnearest]

/-- What is rounded to less than a bound on the grid lies below it. -/
theorem lt_of_snap_lt {num den bound : Nat} (hden : 0 < den) (hgrid : bound % gridStep bound = 0)
    (h : snap num den < bound) : num < bound * den := by
  apply Nat.lt_of_not_le
  intro hreached
  have hsnap := snap_mono hden hreached
  rw [snap_mul_of_onGrid hden hgrid] at hsnap
  omega

namespace Decimal

variable {d : Decimal} {q n : Nat}

/-! ## Reading a decimal again -/

theorem num_neg (units places : Nat) : (⟨units, -(places : Int)⟩ : Decimal).num = units := by
  unfold num
  rw [Int.toNat_neg_natCast, show tenTo 0 = 1 from rfl, Nat.mul_one]

theorem den_neg (units places : Nat) : (⟨units, -(places : Int)⟩ : Decimal).den = tenTo places := by
  unfold den
  rw [Int.neg_neg, Int.toNat_natCast]

theorem quanta_exact (h : q % gridStep q = 0) : (exact q).quanta = q := by
  have hten : ∀ places, Nat.pow 5 places * twoTo places = tenTo places :=
    fun places => (Nat.mul_pow 5 2 places).symm
  unfold exact quanta
  rw [num_neg, den_neg, Nat.mul_assoc, show quantaPerOne = twoTo quantumPlaces from rfl, hten,
    snap_mul_of_onGrid (tenTo_pos _) h]

/-- The decimal with which a magnitude is written is read as the magnitude again. -/
theorem quanta_shortest (h : q % gridStep q = 0) : (shortest q).quanta = q := by
  unfold shortest
  dsimp only
  cases hfound : (List.range (enoughDigits + 1)).findSome? _ with
  | none =>
      rw [Option.getD_none]
      exact quanta_exact h
  | some d =>
      obtain ⟨digits, -, hd⟩ := List.exists_of_findSome?_eq_some hfound
      have hread := List.find?_some hd
      rw [Option.getD_some]
      exact eq_of_beq hread

/-! ## Hundredths -/

/-- A decimal lies at most half a hundredth below its hundredths, and less than half a hundredth
above them. -/
theorem hundredths_error (d : Decimal) : 2 * (d.hundredths * d.den) ≤ 200 * d.num + d.den ∧
    200 * d.num + d.den < 2 * (d.hundredths * d.den) + 2 * d.den := by
  have hparts := Nat.div_add_mod (200 * d.num + d.den) (2 * d.den)
  have hrest :=
    Nat.mod_lt (200 * d.num + d.den) (show 0 < 2 * d.den from Nat.mul_pos (by decide) d.den_pos)
  have hsame : 2 * d.den * d.hundredths = 2 * (d.hundredths * d.den) := by
    rw [Nat.mul_assoc, Nat.mul_comm d.den]
  have hfold : (200 * d.num + d.den) / (2 * d.den) = d.hundredths := rfl
  rw [hfold, hsame] at hparts
  omega

theorem hundredths_eq (hlow : 2 * (n * d.den) ≤ 200 * d.num + d.den)
    (hhigh : 200 * d.num + d.den < 2 * (n * d.den) + 2 * d.den) : d.hundredths = n := by
  unfold hundredths
  apply Nat.div_eq_of_lt_le
  · rw [Nat.mul_left_comm]
    exact hlow
  · rw [Nat.mul_left_comm, Nat.add_mul, Nat.one_mul, Nat.mul_add]
    exact hhigh

/-- A moderate decimal is less than a thousandth away from what is read from it. -/
theorem quanta_error (h : d.num < 0x100000000000 * d.den) :
    1024 * (d.quanta * d.den) ≤ 1024 * (d.num * quantaPerOne) + d.den * quantaPerOne ∧
      1024 * (d.num * quantaPerOne) ≤ 1024 * (d.quanta * d.den) + d.den * quantaPerOne := by
  have hquotient : d.num * quantaPerOne / d.den < twoTo (1065 + 53) := by
    rw [← moderate_eq]
    apply (Nat.div_lt_iff_lt_mul d.den_pos).mpr
    rw [Nat.mul_right_comm]
    exact Nat.mul_lt_mul_of_pos_right h (twoTo_pos 1074)
  have hstep := Nat.mul_le_mul_left d.den (gridStep_le hquotient)
  have hscaled : d.den * quantaPerOne = 512 * (d.den * twoTo 1065) := by
    rw [quantaPerOne_eq_steps, Nat.mul_left_comm]
  obtain ⟨hup, hdown⟩ := snap_error (d.num * quantaPerOne) d.den_pos
  have hread : snap (d.num * quantaPerOne) d.den = d.quanta := rfl
  rw [hread] at hup hdown
  omega

/-- Fine hundredths are less than two thirds of a hundredth away from what is read from their
decimal. -/
theorem near (h : d.hundredths < fineLimit) :
    1024 * (d.hundredths * quantaPerOne) ≤ 102400 * d.quanta + 612 * quantaPerOne ∧
      102400 * d.quanta ≤ 1024 * (d.hundredths * quantaPerOne) + 612 * quantaPerOne := by
  obtain ⟨hlow, hhigh⟩ := d.hundredths_error
  have hpos := d.den_pos
  have hfine : d.hundredths * d.den ≤ 10 ^ 15 * d.den := Nat.mul_le_mul_right _ (Nat.le_of_lt h)
  obtain ⟨hup, hdown⟩ := quanta_error (d := d) (by omega)
  have hlowScaled := Nat.mul_le_mul_right quantaPerOne hlow
  have hhighScaled := Nat.mul_le_mul_right quantaPerOne (Nat.le_of_lt hhigh)
  simp only [Nat.add_mul, Nat.mul_assoc] at hlowScaled hhighScaled
  have hcomm : d.hundredths * (d.den * quantaPerOne) = d.hundredths * quantaPerOne * d.den := by
    rw [Nat.mul_comm d.den, Nat.mul_assoc]
  have hden : d.den * quantaPerOne = quantaPerOne * d.den := Nat.mul_comm _ _
  rw [hcomm, hden] at hlowScaled hhighScaled
  rw [hden] at hup hdown
  constructor
  · refine Nat.le_of_mul_le_mul_right ?_ hpos
    simp only [Nat.add_mul, Nat.mul_assoc 1024, Nat.mul_assoc 102400, Nat.mul_assoc 612]
    omega
  · refine Nat.le_of_mul_le_mul_right ?_ hpos
    simp only [Nat.add_mul, Nat.mul_assoc 1024, Nat.mul_assoc 102400, Nat.mul_assoc 612]
    omega

/-- The double nearest to hundredths is written with a decimal that has them. -/
theorem hundredths_shortest (h : n < fineLimit) :
    (shortest (snap (n * quantaPerOne) 100)).hundredths = n := by
  generalize hd : shortest (snap (n * quantaPerOne) 100) = d
  have hquanta : 0 < quantaPerOne := twoTo_pos 1074
  have hsame : d.quanta = snap (n * quantaPerOne) 100 := hd ▸ quanta_shortest (onGrid_snap _ _)
  have hnear := snap_hundredths_error h
  rw [← hsame] at hnear
  -- the double is moderate, so the decimal that is read as it is moderate, too
  have hnum : d.num * quantaPerOne < 2 ^ 44 * quantaPerOne * d.den := by
    have hgrid : 2 ^ 44 * quantaPerOne % gridStep (2 ^ 44 * quantaPerOne) = 0 := by
      unfold quantaPerOne
      exact mod_gridStep_of_le (by decide)
    have hfine : n * quantaPerOne ≤ 10 ^ 15 * quantaPerOne :=
      Nat.mul_le_mul_right _ (Nat.le_of_lt h)
    refine lt_of_snap_lt d.den_pos hgrid ?_
    show d.quanta < _
    omega
  rw [Nat.mul_right_comm] at hnum
  obtain ⟨hread, hwritten⟩ := quanta_error (Nat.lt_of_mul_lt_mul_right hnum)
  -- so both lie near the hundredths, the decimal by less than half of one
  have hbelow := Nat.mul_le_mul_right d.den hnear.1
  have habove := Nat.mul_le_mul_right d.den hnear.2
  simp only [Nat.add_mul, Nat.mul_assoc, Nat.mul_comm quantaPerOne d.den] at hbelow habove
  have hlow : 2048 * (n * d.den) ≤ 204800 * d.num + 400 * d.den := by
    refine Nat.le_of_mul_le_mul_right ?_ hquanta
    simp only [Nat.add_mul, Nat.mul_assoc]
    omega
  have hhigh : 204800 * d.num ≤ 2048 * (n * d.den) + 400 * d.den := by
    refine Nat.le_of_mul_le_mul_right ?_ hquanta
    simp only [Nat.add_mul, Nat.mul_assoc]
    omega
  have hden := d.den_pos
  exact hundredths_eq (by omega) (by omega)

/-- A double below a bound on the grid has at most the hundredths of the bound. -/
theorem hundredths_le {bound : Nat} (hgrid : q % gridStep q = 0)
    (hbound : bound * quantaPerOne % gridStep (bound * quantaPerOne) = 0)
    (h : q < bound * quantaPerOne) : (shortest q).hundredths ≤ 100 * bound := by
  have hden := (shortest q).den_pos
  have hread : snap ((shortest q).num * quantaPerOne) (shortest q).den < bound * quantaPerOne := by
    have hsame := quanta_shortest hgrid
    unfold quanta at hsame
    rw [hsame]
    exact h
  have hscaled := lt_of_snap_lt hden hbound hread
  rw [Nat.mul_right_comm] at hscaled
  have hnum := Nat.lt_of_mul_lt_mul_right hscaled
  apply Nat.le_of_lt_succ
  refine Nat.div_lt_of_lt_mul ?_
  rw [Nat.mul_succ, Nat.mul_mul_mul_comm, Nat.mul_comm (shortest q).den]
  omega

/-- A double above half a hundredth has at least one.  The double nearest to half a hundredth lies
above it, but is written as half a hundredth and rounded up. -/
theorem one_le_hundredths (hgrid : q % gridStep q = 0) (h : quantaPerOne < 200 * q) :
    1 ≤ (shortest q).hundredths := by
  apply Nat.pos_of_ne_zero
  intro hzero
  have hhalf : (shortest (snap quantaPerOne 200)).hundredths = 1 := by decide +kernel
  have hsmall : 200 * (shortest q).num < (shortest q).den := by
    have hbelow := (shortest q).hundredths_error.2
    rw [hzero] at hbelow
    omega
  have hle : q ≤ snap quantaPerOne 200 := by
    calc q = snap ((shortest q).num * quantaPerOne) (shortest q).den := (quanta_shortest hgrid).symm
      _ = snap ((shortest q).num * quantaPerOne * 200) ((shortest q).den * 200) :=
          (snap_scale _ _ (by decide)).symm
      _ ≤ snap (quantaPerOne * (shortest q).den) ((shortest q).den * 200) := by
          refine snap_mono (Nat.mul_pos (shortest q).den_pos (by decide)) ?_
          rw [Nat.mul_right_comm, Nat.mul_comm _ 200, Nat.mul_comm quantaPerOne]
          exact Nat.mul_le_mul_right _ (Nat.le_of_lt hsmall)
      _ = snap quantaPerOne 200 := by
          rw [Nat.mul_comm _ 200, snap_scale _ _ (shortest q).den_pos]
  have hge : snap quantaPerOne 200 ≤ q := by
    calc snap quantaPerOne 200 ≤ snap (q * 200) 200 :=
          snap_mono (by decide) (Nat.mul_comm 200 q ▸ Nat.le_of_lt h)
      _ = q := snap_mul_of_onGrid (by decide) hgrid
  rw [Nat.le_antisymm hle hge, hhalf] at hzero
  exact absurd hzero (by decide)

end Decimal

end BukuKas.Number
