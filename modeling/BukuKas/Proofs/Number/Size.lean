import BukuKas.Proofs.Number.Rounding

/-!
# The size of doubles

A result is a number, and not an infinity, as long as its size stays far below the largest doubles.
`Within` bounds the size of a double by a whole number, and rounding at most doubles a bound, so
bounds of sums of money stay small through the few divisions and products of a report.

## Main results

* `snap_le` : rounding at most doubles a size.
* `within_ofRatio`, `within_div`, `within_mul` : bounds of quotients and products.
* `atLeastPart_ofRatio` : what is positive stays so.
* `between_cut` : what is cut off below and above lies between.
-/

namespace BukuKas.Number

theorem gridStep_le_self {n : Nat} (h : n ≠ 0) : gridStep n ≤ n := by
  have hpow : twoTo (n.log2 - 52) ≤ twoTo n.log2 := twoTo_le_twoTo (Nat.sub_le _ _)
  exact Nat.le_trans hpow (Nat.log2_self_le h)

/-- Rounding at most doubles a size, up to one quantum. -/
theorem snap_le (num : Nat) {den bound : Nat} (h : 0 < den) (hnum : num ≤ bound * den) :
    snap num den ≤ 2 * bound + 1 := by
  have hquotient : num / den ≤ bound := Nat.div_le_of_le_mul (Nat.mul_comm bound den ▸ hnum)
  have hstep : gridStep (num / den) ≤ bound + 1 := by
    by_cases hzero : num / den = 0
    · rw [hzero]
      exact Nat.le_add_left 1 bound
    · exact Nat.le_trans (gridStep_le_self hzero) (by omega)
  have hscaled : den * gridStep (num / den) ≤ den * (bound + 1) := Nat.mul_le_mul_left den hstep
  obtain ⟨hup, -⟩ := snap_error num h
  have hdistrib : den * (bound + 1) = bound * den + den := by
    rw [Nat.mul_add, Nat.mul_one, Nat.mul_comm]
  have htwice : 2 * snap num den * den ≤ (3 * bound + 1) * den := by
    have hleft : 2 * snap num den * den = 2 * (snap num den * den) := Nat.mul_assoc 2 _ den
    have hright : (3 * bound + 1) * den = 3 * (bound * den) + den := by
      rw [Nat.add_mul, Nat.one_mul, Nat.mul_assoc]
    omega
  have hle := Nat.le_of_mul_le_mul_right htwice h
  omega

namespace Binary64

/-- The double is a number, and its size is at most a whole number. -/
def Within (bound : Nat) (x : Binary64) : Prop :=
  ∃ q hgrid, x = .finite q hgrid ∧ q.natAbs ≤ bound * quantaPerOne

/-- The double is a number, and it is at least one part of so many. -/
def AtLeastPart (parts : Nat) (x : Binary64) : Prop :=
  ∃ q hgrid, x = .finite q hgrid ∧ 0 < q ∧ quantaPerOne ≤ parts * q.natAbs

/-- The largest bound of which a multiple by a thousand is still far below the largest doubles. -/
def boundLimit : Nat := twoTo 1000

theorem snap_lt_quantaLimit {bound size : Nat} (hbound : bound < boundLimit)
    (hsize : size ≤ (2 * bound + 1) * quantaPerOne) : size < quantaLimit := by
  have hlimit : quantaLimit = 2 ^ 24 * boundLimit * quantaPerOne := by
    unfold quantaLimit boundLimit quantaPerOne
    rw [show 2 ^ 24 = twoTo 24 from rfl, ← twoTo_add, ← twoTo_add]
  have hone : 0 < quantaPerOne := twoTo_pos 1074
  rw [hlimit]
  apply Nat.lt_of_le_of_lt hsize
  apply Nat.mul_lt_mul_of_pos_right _ hone
  omega

/-- A quotient of quanta is a number within twice the bound of the exact quotient. -/
theorem within_ofQuanta {num : Int} {den bound : Nat} (hden : 0 < den) (hbound : bound < boundLimit)
    (h : num.natAbs ≤ bound * quantaPerOne * den) : (ofQuanta num den).Within (2 * bound + 1) := by
  have hone : 0 < quantaPerOne := twoTo_pos 1074
  have hsize : snap num.natAbs den ≤ (2 * bound + 1) * quantaPerOne := by
    have hsnap := snap_le num.natAbs hden h
    rw [Nat.add_mul, Nat.one_mul, Nat.mul_assoc]
    omega
  obtain ⟨q, hgrid, heq, hq⟩ := ofQuanta_eq_finite (snap_lt_quantaLimit hbound hsize)
  refine ⟨q, hgrid, heq, ?_⟩
  split at hq <;> omega

theorem within_ofRatio {num : Int} {den bound : Nat} (hden : 0 < den) (hbound : bound < boundLimit)
    (h : num.natAbs ≤ bound * den) : (ofRatio num den).Within (2 * bound + 1) := by
  apply within_ofQuanta hden hbound
  rw [Int.natAbs_mul, Int.natAbs_natCast]
  calc num.natAbs * quantaPerOne ≤ bound * den * quantaPerOne := Nat.mul_le_mul_right _ h
    _ = bound * quantaPerOne * den := Nat.mul_right_comm bound den quantaPerOne

/-- A product is within twice the product of the bounds. -/
theorem within_mul {x y : Binary64} {a b : Nat} (hx : x.Within a) (hy : y.Within b)
    (hbound : a * b < boundLimit) : (x * y).Within (2 * (a * b) + 1) := by
  obtain ⟨p, hp, rfl, hpsize⟩ := hx
  obtain ⟨q, hq, rfl, hqsize⟩ := hy
  have hmul : (.finite p hp * .finite q hq : Binary64) = ofQuanta (p * q) quantaPerOne := by
    show mul (.finite p hp) (.finite q hq) = _
    rw [mul]
  rw [hmul]
  apply within_ofQuanta (twoTo_pos 1074) hbound
  rw [Int.natAbs_mul]
  calc p.natAbs * q.natAbs ≤ a * quantaPerOne * (b * quantaPerOne) := Nat.mul_le_mul hpsize hqsize
    _ = a * b * quantaPerOne * quantaPerOne := by
        rw [Nat.mul_mul_mul_comm, ← Nat.mul_assoc]

/-- A quotient by at least a part is within twice the bound times the parts. -/
theorem within_div {x y : Binary64} {a parts : Nat} (hx : x.Within a) (hy : y.AtLeastPart parts)
    (hbound : a * parts < boundLimit) : (x / y).Within (2 * (a * parts) + 1) := by
  obtain ⟨p, hp, rfl, hpsize⟩ := hx
  obtain ⟨q, hq, rfl, hpos, hqsize⟩ := hy
  have hdiv : (.finite p hp / .finite q hq : Binary64) = ofQuanta (p * quantaPerOne) q.natAbs := by
    show (if q = 0 then _ else ofQuanta (p * quantaPerOne * q.sign) q.natAbs) = _
    rw [if_neg (by omega), Int.sign_eq_one_of_pos hpos, Int.mul_one]
  rw [hdiv]
  apply within_ofQuanta (Int.natAbs_pos.mpr (by omega)) hbound
  rw [Int.natAbs_mul, Int.natAbs_natCast]
  calc p.natAbs * quantaPerOne
      ≤ a * quantaPerOne * (parts * q.natAbs) := Nat.mul_le_mul hpsize hqsize
    _ = a * parts * quantaPerOne * q.natAbs := by
        rw [Nat.mul_mul_mul_comm, Nat.mul_assoc (a * parts)]

/-- A quotient of at least one quantum in so many, rounded, is at least half of that. -/
theorem atLeastPart_ofQuanta {num : Int} {den : Nat} (hnum : (quantaPerOne : Int) ≤ num)
    (hden : 0 < den) (hsmall : den ≤ quantaPerOne) (hfinite : (ofQuanta num den).isFinite = true) :
    (ofQuanta num den).AtLeastPart (2 * den) := by
  have hone : 0 < quantaPerOne := twoTo_pos 1074
  have hsize : snap num.natAbs den < quantaLimit := by
    apply Decidable.byContradiction
    intro hlarge
    unfold ofQuanta at hfinite
    dsimp only at hfinite
    rw [dif_neg hlarge] at hfinite
    exact nomatch hfinite
  obtain ⟨q, hgrid, heq, hq⟩ := ofQuanta_eq_finite hsize
  rw [if_neg (by omega)] at hq
  have hquotient : num.natAbs / den ≠ 0 := Nat.ne_of_gt (Nat.div_pos (by omega) hden)
  -- A step is at most the quotient, so rounding takes at most half of it away.
  have hstep : den * gridStep (num.natAbs / den) ≤ num.natAbs :=
    Nat.le_trans (Nat.mul_le_mul_left den (gridStep_le_self hquotient)) (Nat.mul_div_le _ _)
  obtain ⟨-, hdown⟩ := snap_error num.natAbs hden
  have hparts : quantaPerOne ≤ 2 * den * q.natAbs := by
    have hsame : 2 * den * q.natAbs = 2 * (snap num.natAbs den * den) := by
      rw [hq, Int.natAbs_natCast, Nat.mul_assoc, Nat.mul_comm den]
    omega
  have hne : q ≠ 0 := by
    rintro rfl
    rw [Int.natAbs_zero, Nat.mul_zero] at hparts
    omega
  exact ⟨q, hgrid, heq, by omega, hparts⟩

/-- A positive quotient, rounded, is at least half a unit of its denominator. -/
theorem atLeastPart_ofRatio {n : Int} {den : Nat} (hn : 0 < n) (hden : 0 < den)
    (hsmall : den ≤ quantaPerOne) (hfinite : (ofRatio n den).isFinite = true) :
    (ofRatio n den).AtLeastPart (2 * den) := by
  refine atLeastPart_ofQuanta ?_ hden hsmall hfinite
  have hwhole :=
    Int.mul_le_mul_of_nonneg_right (show 1 ≤ n by omega) (Int.natCast_nonneg quantaPerOne)
  rwa [Int.one_mul] at hwhole

theorem isFinite_of_within {x : Binary64} {bound : Nat} (h : x.Within bound) :
    x.isFinite = true := by
  obtain ⟨q, hgrid, rfl, -⟩ := h
  rfl

theorem floor?_of_within {x : Binary64} {bound : Nat} (h : x.Within bound) :
    ∃ n, x.floor? = some n := by
  obtain ⟨q, hgrid, rfl, -⟩ := h
  exact ⟨_, rfl⟩

theorem round?_of_within {x : Binary64} {bound : Nat} (h : x.Within bound) :
    ∃ n, x.round? = some n := by
  obtain ⟨q, hgrid, rfl, -⟩ := h
  exact ⟨_, rfl⟩

theorem within_mono {x : Binary64} {a b : Nat} (h : x.Within a) (hle : a ≤ b) : x.Within b := by
  obtain ⟨q, hgrid, rfl, hsize⟩ := h
  exact ⟨q, hgrid, rfl, Nat.le_trans hsize (Nat.mul_le_mul_right _ hle)⟩

/-! ## Sums of quanta -/

theorem finite_add_finite {p q : Int} (hp : OnGrid p.natAbs) (hq : OnGrid q.natAbs) :
    (.finite p hp + .finite q hq : Binary64) = ofQuanta (p + q) 1 := by
  show add (.finite p hp) (.finite q hq) = _
  rw [add]

theorem finite_sub_finite {p q : Int} (hp : OnGrid p.natAbs) (hq : OnGrid q.natAbs) :
    (.finite p hp - .finite q hq : Binary64) = ofQuanta (p + -q) 1 := by
  show sub (.finite p hp) (.finite q hq) = _
  rw [sub, neg, add]

/-- Rounding does not go below zero. -/
theorem nonneg_of_ofQuanta {num q : Int} {den : Nat} {hgrid : OnGrid q.natAbs} (h : 0 ≤ num)
    (heq : ofQuanta num den = .finite q hgrid) : 0 ≤ q := by
  by_cases hsize : snap num.natAbs den < quantaLimit
  · obtain ⟨r, hr, hround, hsign⟩ := ofQuanta_eq_finite hsize
    rw [if_neg (by omega)] at hsign
    rw [hround] at heq
    injection heq with heq
    omega
  · unfold ofQuanta at heq
    dsimp only at heq
    rw [dif_neg hsize] at heq
    exact nomatch heq

theorem ofQuanta_ne_nan (num : Int) (den : Nat) : ofQuanta num den ≠ .nan := by
  intro h
  unfold ofQuanta at h
  dsimp only at h
  split at h
  · split at h <;> cases h
  · cases h

/-! ## Whole numbers -/

theorem ofNat_eq_ofRatio (n : Nat) : ofNat n = ofRatio n 1 := by
  unfold ofNat ofInt
  exact Eq.refl _

/-- A natural number is within about twice itself, and a positive one is not rounded to zero. -/
theorem within_ofNat {n : Nat} (h : n < boundLimit) : (ofNat n).Within (2 * n + 1) := by
  rw [ofNat_eq_ofRatio]
  exact within_ofRatio Nat.one_pos h (Nat.le_of_eq (by rw [Int.natAbs_natCast, Nat.mul_one]))

theorem atLeastPart_ofNat {n : Nat} (hpos : 0 < n) (h : n < boundLimit) :
    (ofNat n).AtLeastPart 2 := by
  have hfinite := isFinite_of_within (within_ofNat h)
  rw [ofNat_eq_ofRatio] at hfinite ⊢
  exact atLeastPart_ofRatio (Int.natCast_pos.mpr hpos) Nat.one_pos (twoTo_pos 1074) hfinite

theorem zero_eq : ∃ hgrid, (0 : Binary64) = .finite 0 hgrid :=
  ⟨by decide +kernel, by decide +kernel⟩

theorem one_eq : ∃ hgrid, (1 : Binary64) = .finite quantaPerOne hgrid :=
  ⟨by decide +kernel, by decide +kernel⟩

theorem hundred_eq : ∃ hgrid, (100 : Binary64) = .finite (100 * (quantaPerOne : Int)) hgrid :=
  ⟨by decide +kernel, by decide +kernel⟩

theorem ne_zero_of_atLeastPart {x : Binary64} {parts : Nat} (h : x.AtLeastPart parts) : x ≠ 0 := by
  obtain ⟨q, hgrid, rfl, hpos, -⟩ := h
  obtain ⟨hzero, hzeroEq⟩ := zero_eq
  rw [hzeroEq]
  intro heq
  injection heq with heq
  omega

theorem snap_zero (den : Nat) : snap 0 den = 0 := by
  show nearest 0 (den * gridStep (0 / den)) * gridStep (0 / den) = 0
  rw [nearest_zero, Nat.zero_mul]

/-- A quotient that is not above zero is not above zero after rounding. -/
theorem ofQuanta_le_zero {num : Int} (den : Nat) (h : num ≤ 0) : ofQuanta num den ≤ 0 := by
  obtain ⟨hzero, hzeroEq⟩ := zero_eq
  rw [hzeroEq]
  by_cases hsize : snap num.natAbs den < quantaLimit
  · obtain ⟨q, hgrid, heq, hq⟩ := ofQuanta_eq_finite hsize
    rw [heq]
    have hle : q ≤ 0 := by
      by_cases hneg : num < 0
      · rw [if_pos hneg] at hq
        omega
      · have hnum : num.natAbs = 0 := by omega
        rw [if_neg hneg, hnum, snap_zero] at hq
        omega
    exact decide_eq_true hle
  · have hneg : num < 0 := by
      apply Decidable.byContradiction
      intro hnot
      have hnum : num.natAbs = 0 := by omega
      rw [hnum, snap_zero] at hsize
      exact hsize (twoTo_pos 2098)
    have heq : ofQuanta num den = .infinite true := by
      unfold ofQuanta
      dsimp only
      rw [dif_neg hsize, decide_eq_true hneg]
    rw [heq]
    rfl

/-- A rounded quotient is above zero only if the exact one is. -/
theorem pos_of_not_le_zero {n : Int} {den : Nat} (h : ¬ofRatio n den ≤ 0) : 0 < n := by
  apply Int.not_le.mp
  intro hn
  exact h (ofQuanta_le_zero den
    (Int.mul_nonpos_of_nonpos_of_nonneg hn (Int.natCast_nonneg quantaPerOne)))

theorem not_le_of_lt {x y : Binary64} (h : x < y) : ¬y ≤ x := by
  have hlt : lt x y = true := h
  show ¬le y x = true
  cases x <;> cases y <;> simp_all [lt, le]

theorem finite_lt_iff {p q : Int} {hp : OnGrid p.natAbs} {hq : OnGrid q.natAbs} :
    (.finite p hp : Binary64) < .finite q hq ↔ p < q :=
  decide_eq_true_iff

theorem infinite_lt_finite_iff {negative : Bool} {q : Int} {hq : OnGrid q.natAbs} :
    (.infinite negative : Binary64) < .finite q hq ↔ negative = true :=
  Iff.rfl

theorem finite_lt_infinite_iff {negative : Bool} {q : Int} {hq : OnGrid q.natAbs} :
    (.finite q hq : Binary64) < .infinite negative ↔ negative = false :=
  Bool.not_eq_true' negative ▸ Iff.rfl

/-- The double is a number between two numbers of quanta. -/
def Between (low high : Int) (x : Binary64) : Prop :=
  ∃ q hgrid, x = .finite q hgrid ∧ low ≤ q ∧ q ≤ high

theorem within_of_between {x : Binary64} {bound : Nat}
    (h : x.Between 0 (bound * (quantaPerOne : Int))) : x.Within bound := by
  obtain ⟨q, hgrid, rfl, hlow, hhigh⟩ := h
  rw [← Int.natCast_mul] at hhigh
  exact ⟨q, hgrid, rfl, by omega⟩

/-- What is cut off below and above lies between, in whichever order it is cut. -/
theorem between_cut {x : Binary64} {low high : Int} {hlow : OnGrid low.natAbs}
    {hhigh : OnGrid high.natAbs} (hle : low ≤ high) (hx : x ≠ .nan) :
    (Binary64.min (Binary64.max x (.finite low hlow)) (.finite high hhigh)).Between low high ∧
      (Binary64.max (.finite low hlow) (Binary64.min x (.finite high hhigh))).Between low high := by
  have hbottom : (.finite low hlow : Binary64).Between low high :=
    ⟨low, hlow, rfl, Int.le_refl _, hle⟩
  have htop : (.finite high hhigh : Binary64).Between low high :=
    ⟨high, hhigh, rfl, hle, Int.le_refl _⟩
  unfold Binary64.min Binary64.max
  cases x with
  | nan => exact absurd rfl hx
  | infinite negative =>
      cases negative <;>
        simp only [infinite_lt_finite_iff, finite_lt_infinite_iff, if_true, if_false,
          Bool.false_eq_true, Bool.true_eq_false]
      · exact ⟨htop, by split <;> assumption⟩
      · exact ⟨by split <;> assumption, hbottom⟩
  | finite q hgrid =>
      constructor
      · split
        · split <;> assumption
        · rename_i hnotBelow
          split
          · exact htop
          · rename_i hnotAbove
            rw [finite_lt_iff] at hnotBelow hnotAbove
            exact ⟨q, hgrid, rfl, by omega, by omega⟩
      · split
        · split <;> assumption
        · rename_i hnotAbove
          split
          · rename_i hbelow
            rw [finite_lt_iff] at hnotAbove hbelow
            exact ⟨q, hgrid, rfl, by omega, by omega⟩
          · exact hbottom

end Binary64

end BukuKas.Number
