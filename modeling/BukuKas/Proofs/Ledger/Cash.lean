import BukuKas.Ledger.Cash
import BukuKas.Proofs.Number.Decimal

/-!
# What the ledger keeps of a double

Only positive numbers are kept, and in few enough digits that their doubles are finite.  An amount
of two decimals is kept as it is, unless it is so large that doubles cannot tell hundredths apart.

## Main results

* `Cash.toDouble_le` : the doubles of amounts are in the order of the amounts.
* `Cash.kept_ofRatio` : an amount of two decimals is not changed.
* `Cash.proper_of_ofDouble?` : what is kept is positive, and finite as a double.
-/

namespace BukuKas.Cash

open Number (Binary64 Decimal OnGrid quantaPerOne fineLimit snap nearest)

variable {x : Binary64} {amount : Cash}

/-! ## The order of amounts -/

theorem le_iff {a b : Cash} : a.le b = true ↔ a.count ≤ b.count := decide_eq_true_iff

theorem le_total (a b : Cash) : (a.le b || b.le a) = true := by
  rw [Bool.or_eq_true, le_iff, le_iff]
  exact Nat.le_total a.count b.count

theorem le_trans {a b c : Cash} (hab : a.le b = true) (hbc : b.le c = true) : a.le c = true :=
  le_iff.mpr (Nat.le_trans (le_iff.mp hab) (le_iff.mp hbc))

theorem le_refl (a : Cash) : a.le a = true := le_iff.mpr (Nat.le_refl a.count)

theorem zero_le (a : Cash) : zero.le a = true := le_iff.mpr (Nat.zero_le a.count)

/-! ## Doubles of amounts -/

theorem toDouble_zero : zero.toDouble = 0 := rfl

/-- The doubles of amounts are in the order of the amounts. -/
theorem toDouble_le {a b : Cash} (h : a.le b = true) : a.toDouble ≤ b.toDouble := by
  have hquanta := Binary64.ofQuanta_mono (show 0 < 100 by decide)
    (Nat.mul_le_mul_right Number.quantaPerOne (le_iff.mp h))
  rw [Int.natCast_mul, Int.natCast_mul] at hquanta
  rw [toDouble_eq, toDouble_eq]
  exact hquanta

/-! ## Amounts of doubles -/

/-- A double as it is when it is read back from the ledger, provided that the ledger keeps it. -/
def kept (x : Binary64) : Binary64 :=
  match ofDouble? x with
  | some amount => amount.toDouble
  | none => x

theorem toDouble_of_ofDouble? (h : ofDouble? x = some amount) : amount.toDouble = kept x := by
  unfold kept
  rw [h]

/-- What is kept are the hundredths of the decimal with which a positive number is written. -/
theorem exists_of_ofDouble? (h : ofDouble? x = some amount) :
    ∃ (q : Nat) (hgrid : OnGrid (q : Int).natAbs), 0 < q ∧ x = .finite q hgrid ∧
      amount = .hundredths (Decimal.shortest q).hundredths ∧
      0 < (Decimal.shortest q).hundredths ∧ (Decimal.shortest q).hundredths < limit := by
  cases x with
  | nan | infinite negative => exact nomatch h
  | finite quanta hgrid =>
      have hpos : 0 < quanta := by
        apply Decidable.byContradiction
        intro hnot
        exact nomatch (if_neg hnot).symm.trans h
      obtain ⟨q, rfl⟩ := Int.eq_ofNat_of_zero_le (Int.le_of_lt hpos)
      have hkept : ofDecimal? (.shortest (q : Int).toNat) = some amount :=
        (if_pos hpos).symm.trans h
      rw [Int.toNat_natCast] at hkept
      unfold ofDecimal? at hkept
      split at hkept
      · rename_i hbounds
        exact ⟨q, hgrid, Int.natCast_pos.mp hpos, rfl, (Option.some.inj hkept).symm, hbounds⟩
      · exact nomatch hkept

theorem ofDouble?_finite {q : Nat} {hgrid : OnGrid (q : Int).natAbs} {n : Nat} (hq : 0 < q)
    (hn : (Decimal.shortest q).hundredths = n) (hpos : 0 < n) (hlimit : n < limit) :
    ofDouble? (.finite q hgrid) = some (.hundredths n) := by
  show (if (0 : Int) < q then ofDecimal? (.shortest (q : Int).toNat) else none) = _
  rw [if_pos (Int.natCast_pos.mpr hq), Int.toNat_natCast]
  unfold ofDecimal?
  rw [hn, if_pos ⟨hpos, hlimit⟩]

/-- An amount of eighteen digits is finite as a double. -/
theorem isFinite_toDouble (h : amount.count < limit) : amount.toDouble.isFinite = true := by
  have hbound : (amount.count : Int).natAbs ≤ limit * 100 := by omega
  obtain ⟨q, hgrid, heq, -⟩ := Binary64.within_ofRatio (show 0 < 100 by decide)
    (show limit < Binary64.boundLimit by decide +kernel) hbound
  rw [toDouble_eq, heq]
  rfl

/-- What is kept is positive, and finite as a double. -/
theorem proper_of_ofDouble? (h : ofDouble? x = some amount) :
    (∃ n, amount = .hundredths n ∧ 0 < n) ∧ amount.toDouble.isFinite = true := by
  obtain ⟨q, hgrid, -, -, rfl, hpos, hlimit⟩ := exists_of_ofDouble? h
  exact ⟨⟨_, rfl, hpos⟩, isFinite_toDouble hlimit⟩

/-- The double of so many hundredths is kept as these. -/
theorem ofDouble?_ofRatio {n : Nat} (hpos : 0 < n) (h : n < fineLimit) :
    ofDouble? (.ofRatio n 100) = some (.hundredths n) := by
  obtain ⟨hgrid, heq⟩ := Binary64.exists_ofQuanta_eq (Number.snap_hundredths_lt h)
  have hfound := Decimal.hundredths_shortest h
  have hq : 0 < snap (n * quantaPerOne) 100 := by
    apply Nat.pos_of_ne_zero
    intro hzero
    rw [hzero] at hfound
    have hnothing : (Decimal.shortest 0).hundredths = 0 := by decide +kernel
    omega
  have hlimit : n < limit := Nat.lt_trans h (by decide +kernel)
  show ofDouble? (.ofQuanta ((n : Int) * quantaPerOne) 100) = _
  rw [← Int.natCast_mul, heq]
  exact ofDouble?_finite hq hfound hpos hlimit

/-- Nothing is kept of hundredths that are not positive. -/
theorem ofDouble?_of_nonpos {n : Int} (h : n ≤ 0) : ofDouble? (.ofRatio n 100) = none := by
  cases hkept : ofDouble? (.ofRatio n 100) with
  | none => rfl
  | some amount =>
      obtain ⟨q, hgrid, hpos, heq, -⟩ := exists_of_ofDouble? hkept
      have hnum : n * (quantaPerOne : Int) ≤ 0 :=
        Int.mul_nonpos_of_nonpos_of_nonneg h (Int.natCast_nonneg _)
      have hle : (.finite q hgrid : Binary64) ≤ 0 := heq ▸ Binary64.ofQuanta_le_zero 100 hnum
      obtain ⟨hzero, hzeroEq⟩ := Binary64.zero_eq
      rw [hzeroEq] at hle
      have hq : (q : Int) ≤ 0 := of_decide_eq_true hle
      omega

/-- An amount of two decimals is kept as it is. -/
theorem kept_ofRatio {n : Int} (h : n.natAbs < fineLimit) :
    kept (.ofRatio n 100) = .ofRatio n 100 := by
  unfold kept
  rcases Int.lt_or_le 0 n with hpos | hnonpos
  · obtain ⟨k, rfl⟩ := Int.eq_ofNat_of_zero_le (Int.le_of_lt hpos)
    rw [ofDouble?_ofRatio (Int.natCast_pos.mp hpos) h]
    exact toDouble_eq _
  · rw [ofDouble?_of_nonpos hnonpos]

end BukuKas.Cash
