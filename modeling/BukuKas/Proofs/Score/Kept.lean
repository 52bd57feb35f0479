import BukuKas.Proofs.Ledger.Cash
import BukuKas.Proofs.Number.Finite

/-!
# Points of an amount and of what is kept of it

An amount earns its points before it is kept, and what is kept is rounded to hundredths.  A full
number of thousands is itself a number of hundredths and a double, so no rounding leads across it:
an amount that has reached it stays there, and one that has not can only be lifted onto it.  So what
is kept earns the points of the amount, or one more; and one more only where less than a full number
of thousands became one.

Everything is done in quanta.  A double has `quantaPerOne` of them in one, and near the thousandth
of an amount the step of doubles is at most `thousandthStep`, far below the thousandth of a
hundredth.

## Main results

* `points_kept` : the points of an amount, and those of what is kept of it.
-/

namespace BukuKas

namespace Number

/-! ## Thousandths -/

/-- The full thousands of an amount in quanta. -/
def thousands (q : Nat) : Nat := snap (q * quantaPerOne) (1000 * quantaPerOne) / quantaPerOne

/-- The largest step of doubles near the thousandth of an amount. -/
def thousandthStep : Nat := twoTo 1055

theorem quantaPerOne_eq : quantaPerOne = 524288 * thousandthStep := by
  unfold quantaPerOne thousandthStep
  rw [show 1074 = 19 + 1055 from rfl, twoTo_add, show twoTo 19 = 524288 from rfl]

theorem quantaPerOne_pos : 0 < quantaPerOne := twoTo_pos 1074

/-- An amount is moderate up to the bound to which doubles are fine. -/
def Moderate (q : Nat) : Prop := q ≤ 10000000000001 * quantaPerOne

/-- The thousandth of a moderate amount is rounded by a small step, which divides one. -/
theorem gridStep_thousandth {q : Nat} (h : Moderate q) :
    gridStep (q * quantaPerOne / (1000 * quantaPerOne)) ∣ thousandthStep := by
  rw [Nat.mul_div_mul_right q 1000 quantaPerOne_pos]
  apply gridStep_dvd
  have hbound : 2 ^ 34 * quantaPerOne = twoTo (1055 + 53) := by
    unfold quantaPerOne
    rw [show 2 ^ 34 = twoTo 34 from rfl, ← twoTo_add]
  unfold Moderate at h
  rw [← hbound]
  have hpos := quantaPerOne_pos
  omega

/-- An amount that has reached a full number of thousands has as many. -/
theorem le_thousands {q k : Nat} (hq : Moderate q) (h : 1000 * (k * quantaPerOne) ≤ q) :
    k ≤ thousands q := by
  have hone : thousandthStep ∣ quantaPerOne := ⟨524288, by rw [quantaPerOne_eq, Nat.mul_comm]⟩
  have hgrid := Nat.dvd_trans (gridStep_thousandth hq) (Nat.dvd_trans hone (Nat.dvd_mul_left _ k))
  apply (Nat.le_div_iff_mul_le quantaPerOne_pos).mpr
  refine le_snap (Nat.mul_pos (by decide) quantaPerOne_pos) hgrid ?_
  calc k * quantaPerOne * (1000 * quantaPerOne) = 1000 * (k * quantaPerOne) * quantaPerOne := by
        rw [Nat.mul_left_comm, Nat.mul_assoc 1000]
    _ ≤ q * quantaPerOne := Nat.mul_le_mul_right _ h

/-- An amount that is clearly below a full number of thousands has fewer. -/
theorem thousands_lt {q k : Nat} (hq : Moderate q)
    (h : q + 500 * thousandthStep < 1000 * (k * quantaPerOne)) : thousands q < k := by
  have hden : 0 < 1000 * quantaPerOne := Nat.mul_pos (by decide) quantaPerOne_pos
  have hstep : _ ≤ thousandthStep := Nat.le_of_dvd (twoTo_pos _) (gridStep_thousandth hq)
  obtain ⟨hup, -⟩ := snap_error (q * quantaPerOne) hden
  unfold thousands
  apply (Nat.div_lt_iff_lt_mul quantaPerOne_pos).mpr
  generalize snap (q * quantaPerOne) (1000 * quantaPerOne) = size at hup ⊢
  generalize gridStep (q * quantaPerOne / (1000 * quantaPerOne)) = step at hstep hup
  have hscaled : (2000 * size) * quantaPerOne ≤ (2 * q + 1000 * step) * quantaPerOne := by
    calc (2000 * size) * quantaPerOne = 2 * (size * (1000 * quantaPerOne)) := by
          rw [Nat.mul_left_comm size, ← Nat.mul_assoc 2, ← Nat.mul_assoc (2 * 1000)]
      _ ≤ 2 * (q * quantaPerOne) + 1000 * quantaPerOne * step := hup
      _ = (2 * q + 1000 * step) * quantaPerOne := by
          rw [Nat.add_mul, Nat.mul_assoc 2, Nat.mul_right_comm 1000]
  have hsize := Nat.le_of_mul_le_mul_right hscaled quantaPerOne_pos
  omega

/-! ## Kept amounts -/

/-- An amount in quanta, and its hundredths as they are kept: within two thirds of one. -/
structure Keeps (q n : Nat) : Prop where
  below : 1024 * (n * quantaPerOne) ≤ 102400 * q + 612 * quantaPerOne
  above : 102400 * q ≤ 1024 * (n * quantaPerOne) + 612 * quantaPerOne
  fine : n < fineLimit

/-- The quanta of the double that is nearest to hundredths. -/
def quantaOf (n : Nat) : Nat := snap (n * quantaPerOne) 100

namespace Keeps

variable {q n : Nat}

/-- Hundredths divided into full thousands and the rest, in quanta. -/
theorem exists_parts (n : Nat) : ∃ rest, n * quantaPerOne =
    100000 * (n / 100000 * quantaPerOne) + rest ∧ rest ≤ 99999 * quantaPerOne ∧
      (n % 100000 ≠ 0 → quantaPerOne ≤ rest) := by
  refine ⟨n % 100000 * quantaPerOne, ?_, Nat.mul_le_mul_right _ (by omega), fun h => ?_⟩
  · rw [← Nat.mul_assoc, ← Nat.add_mul, Nat.div_add_mod]
  · exact Nat.le_mul_of_pos_left _ (Nat.pos_of_ne_zero h)

theorem fine_scaled (h : Keeps q n) : n * quantaPerOne ≤ 1000000000000000 * quantaPerOne :=
  Nat.mul_le_mul_right _ (Nat.le_of_lt h.fine)

theorem moderate (h : Keeps q n) : Moderate q := by
  have hnear := h.above
  have hfine := h.fine_scaled
  unfold Moderate
  omega

/-- The double that is kept is rounded by a step of less than a hundredth, which divides one. -/
theorem gridStep_kept (h : Keeps q n) : gridStep (n * quantaPerOne / 100) ∣ twoTo 1065 := by
  apply gridStep_dvd
  have hfine := h.fine_scaled
  have hpos := quantaPerOne_pos
  rw [← moderate_eq]
  omega

/-- What is kept lies near the hundredths. -/
theorem near_kept (h : Keeps q n) :
    102400 * quantaOf n ≤ 1024 * (n * quantaPerOne) + 100 * quantaPerOne :=
  (snap_hundredths_error h.fine).1

theorem moderate_kept (h : Keeps q n) : Moderate (quantaOf n) := by
  have hnear := h.near_kept
  have hfine := h.fine_scaled
  unfold Moderate
  omega

/-- What is kept has reached the full thousands of the hundredths. -/
theorem thousands_le_kept (h : Keeps q n) : 1000 * (n / 100000 * quantaPerOne) ≤ quantaOf n := by
  have hone : twoTo 1065 ∣ quantaPerOne := twoTo_dvd_twoTo (by decide)
  have hgrid : gridStep (n * quantaPerOne / 100) ∣ 1000 * (n / 100000 * quantaPerOne) :=
    Nat.dvd_trans h.gridStep_kept (Nat.dvd_trans hone
      (Nat.dvd_trans (Nat.dvd_mul_left _ _) (Nat.dvd_mul_left _ _)))
  obtain ⟨rest, hparts, -⟩ := exists_parts n
  apply le_snap (by decide) hgrid
  omega

/-- What is kept has as many full thousands as its hundredths. -/
theorem thousands_kept (h : Keeps q n) : thousands (quantaOf n) = n / 100000 := by
  obtain ⟨rest, hparts, hrest, -⟩ := exists_parts n
  have hnear := h.near_kept
  have hone := quantaPerOne_eq
  have hpos := quantaPerOne_pos
  have hhigh : thousands (quantaOf n) < n / 100000 + 1 := by
    apply thousands_lt h.moderate_kept
    rw [Nat.add_mul, Nat.one_mul]
    omega
  have hlow := le_thousands h.moderate_kept h.thousands_le_kept
  omega

/-- The amount has as many full thousands as its hundredths, or one less; and one less only if it is
less than what is kept, and that is a full number of thousands. -/
theorem thousands_cases (h : Keeps q n) : thousands q = n / 100000 ∨
    (thousands q + 1 = n / 100000 ∧ q < quantaOf n ∧ n % 100000 = 0) := by
  obtain ⟨rest, hparts, hrest, hsome⟩ := exists_parts n
  have hbelow := h.below
  have habove := h.above
  have hone := quantaPerOne_eq
  have hpos := quantaPerOne_pos
  have hhigh : thousands q < n / 100000 + 1 := by
    apply thousands_lt h.moderate
    rw [Nat.add_mul, Nat.one_mul]
    omega
  by_cases hreached : 1000 * (n / 100000 * quantaPerOne) ≤ q
  · have hlow := le_thousands h.moderate hreached
    exact .inl (by omega)
  · have hkept := h.thousands_le_kept
    have hfull : n % 100000 = 0 := by
      apply Decidable.byContradiction
      intro hnot
      have hover := hsome hnot
      omega
    have hlow : n / 100000 - 1 ≤ thousands q := by
      apply le_thousands h.moderate
      rw [Nat.sub_mul, Nat.one_mul]
      omega
    by_cases hsame : thousands q = n / 100000
    · exact .inl hsame
    · exact .inr ⟨by omega, by omega, hfull⟩

end Keeps

end Number

namespace Number.Binary64

theorem finite_lt_finite {p q : Int} {hp : OnGrid p.natAbs} {hq : OnGrid q.natAbs} (h : p < q) :
    (.finite p hp : Binary64) < .finite q hq :=
  decide_eq_true h

theorem snap_lt_of_isFinite {num : Int} {den : Nat} (h : (ofQuanta num den).isFinite = true) :
    snap num.natAbs den < quantaLimit := by
  unfold ofQuanta at h
  dsimp only at h
  split at h
  · assumption
  · cases h

theorem floor?_finite (q : Nat) {hgrid : OnGrid (q : Int).natAbs} :
    (.finite q hgrid : Binary64).floor? = some ((q / quantaPerOne : Nat) : Int) :=
  congrArg some (Int.natCast_ediv q quantaPerOne).symm

end Number.Binary64

namespace Score

open Number (Binary64 Decimal OnGrid thousands quantaOf quantaPerOne fineLimit)

theorem points_of_floor? {x : Binary64} {full : Int} (h : (x / 1000).floor? = some full) :
    points x = .ok (max leastPoints full) := by
  unfold points
  rw [h]

/-- The points of an amount that is not negative. -/
theorem points_finite {q : Nat} {hgrid : OnGrid (q : Int).natAbs} :
    points (.finite q hgrid) = .ok (max leastPoints (thousands q)) := by
  obtain ⟨hthousand, heq⟩ := Binary64.thousand_eq
  have hpos : 0 < 1000 * (quantaPerOne : Int) :=
    Int.mul_pos (by decide) (Int.natCast_pos.mpr Number.quantaPerOne_pos)
  have hden : (1000 * (quantaPerOne : Int)).natAbs = 1000 * quantaPerOne := by
    have hnatAbs : (1000 : Int).natAbs = 1000 := by decide
    rw [Int.natAbs_mul, Int.natAbs_natCast, hnatAbs]
  have hquotient : (.finite q hgrid / 1000 : Binary64) =
      .ofQuanta ((q * quantaPerOne : Nat) : Int) (1000 * quantaPerOne) := by
    rw [heq, Binary64.finite_div_finite hgrid hthousand hpos, hden, Int.natCast_mul]
  have hfinite := Binary64.isFinite_div_thousand (x := .finite q hgrid) rfl
  rw [hquotient] at hfinite
  have hsize := Binary64.snap_lt_of_isFinite hfinite
  rw [Int.natAbs_natCast] at hsize
  obtain ⟨hresult, hrounded⟩ := Binary64.exists_ofQuanta_eq hsize
  have hfloor : (.finite q hgrid / 1000 : Binary64).floor? = some (thousands q : Int) := by
    rw [hquotient, hrounded]
    exact Binary64.floor?_finite _
  exact points_of_floor? hfloor

/-- What an amount is that is kept in hundredths, and what is kept of it. -/
theorem exists_quanta {x : Binary64} {n : Nat} (h : Cash.ofDouble? x = some (.hundredths n))
    (hn : n < fineLimit) : ∃ (q : Nat) (hgrid : OnGrid (q : Int).natAbs)
      (hkept : OnGrid (quantaOf n : Int).natAbs), Number.Keeps q n ∧ x = .finite q hgrid ∧
        Cash.kept x = .finite (quantaOf n) hkept := by
  obtain ⟨q, hgrid, -, rfl, hsame, -⟩ := Cash.exists_of_ofDouble? h
  have hcount : n = (Decimal.shortest q).hundredths := congrArg Cash.count hsame
  have hread : (Decimal.shortest q).quanta = q := Decimal.quanta_shortest hgrid.1
  obtain ⟨hbelow, habove⟩ := Decimal.near (hcount ▸ hn)
  rw [hread, ← hcount] at hbelow habove
  obtain ⟨hkept, hrounded⟩ := Binary64.exists_ofQuanta_eq (Number.snap_hundredths_lt hn)
  refine ⟨q, hgrid, hkept, ⟨hbelow, habove, hn⟩, rfl, ?_⟩
  rw [← Cash.toDouble_of_ofDouble? h, Cash.toDouble_eq]
  show Binary64.ofQuanta ((n : Int) * quantaPerOne) 100 = _
  rw [← Int.natCast_mul, hrounded]
  rfl

/-- What is kept of an amount earns the points of the amount, or one more; and one more only if it
is more than the amount, and that is a full number of thousands. -/
theorem points_kept {x : Binary64} {n : Nat} (h : Cash.ofDouble? x = some (.hundredths n))
    (hn : n < fineLimit) : ∃ p, points x = .ok p ∧ (points (Cash.kept x) = .ok p ∨
      (points (Cash.kept x) = .ok (p + 1) ∧ x < Cash.kept x ∧ n % 100000 = 0)) := by
  obtain ⟨q, hgrid, hkept, hkeeps, rfl, hread⟩ := exists_quanta h hn
  refine ⟨_, points_finite, ?_⟩
  rw [hread, points_finite, hkeeps.thousands_kept]
  rcases hkeeps.thousands_cases with hsame | ⟨hone, hless, hfull⟩
  · exact .inl (by rw [hsame])
  · have hpoints : max leastPoints ((n / 100000 : Nat) : Int) =
        max leastPoints (thousands q : Int) ∨
        max leastPoints ((n / 100000 : Nat) : Int) = max leastPoints (thousands q : Int) + 1 := by
      unfold leastPoints
      omega
    rcases hpoints with hsame | hmore
    · exact .inl (congrArg Except.ok hsame)
    · exact .inr ⟨congrArg Except.ok hmore, Binary64.finite_lt_finite (Int.ofNat_lt.mpr hless),
        hfull⟩

end Score

end BukuKas
