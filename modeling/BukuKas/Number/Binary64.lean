import BukuKas.Number.Nearest
import BukuKas.Number.Power

/-!
# Doubles, exactly

A double is not a number, or an infinity, or a whole number of quanta of size 2⁻¹⁰⁷⁴.  Every
finite double is such a whole number, so that sums, products and quotients are computed exactly on
integers and rounded once, to the nearest multiple of the step that the size of the result allows.
The sign of a zero is not kept: no rule of this library depends on it.

## Main results

* `onGrid_snap` : what rounding gives is a double again.
* `Binary64.add_comm` : sums do not depend on the order of their two terms.
-/

namespace BukuKas.Number

/-- The number of quanta in one. -/
def quantaPerOne : Nat := twoTo 1074

/-- The first magnitude, in quanta, that is too large for a finite double. -/
def quantaLimit : Nat := twoTo 2098

/-- The distance between neighbours near a magnitude: one quantum up to 2⁵³ quanta, and twice as
far for each further bit. -/
def gridStep (n : Nat) : Nat := twoTo (n.log2 - 52)

/-- Whether a magnitude in quanta is that of a finite double. -/
def OnGrid (n : Nat) : Prop := n % gridStep n = 0 ∧ n < quantaLimit

instance (n : Nat) : Decidable (OnGrid n) := by
  unfold OnGrid
  infer_instance

/-- The quotient rounded to the nearest multiple of the step that its size allows. -/
def snap (num den : Nat) : Nat :=
  let step := gridStep (num / den)
  nearest num (den * step) * step

theorem mod_gridStep_of_le {r k : Nat} (h : r ≤ twoTo 53) :
    r * twoTo k % gridStep (r * twoTo k) = 0 := by
  unfold gridStep
  rcases Nat.lt_or_eq_of_le h with hlt | rfl
  · by_cases hz : r * twoTo k = 0
    · simp [hz]
    · have hbound : r * twoTo k < twoTo (53 + k) := by
        rw [twoTo_add]
        exact Nat.mul_lt_mul_of_pos_right hlt (twoTo_pos k)
      have hlog : (r * twoTo k).log2 < 53 + k := log2_lt_of_lt_twoTo hz hbound
      have hdvd : twoTo ((r * twoTo k).log2 - 52) ∣ twoTo k := twoTo_dvd_twoTo (by omega)
      exact Nat.mod_eq_zero_of_dvd (Nat.dvd_trans hdvd (Nat.dvd_mul_left _ _))
  · rw [← twoTo_add, log2_twoTo]
    exact Nat.mod_eq_zero_of_dvd (twoTo_dvd_twoTo (by omega))

theorem nearest_gridStep_le (num den : Nat) :
    nearest num (den * gridStep (num / den)) ≤ twoTo 53 := by
  refine Nat.le_trans (nearest_le_succ _ _) ?_
  rw [← Nat.div_div_eq_div_mul]
  unfold gridStep
  have hlt : num / den < twoTo ((num / den).log2 + 1) := lt_twoTo_log2_succ _
  have hpow : twoTo ((num / den).log2 + 1) ≤ twoTo 53 * twoTo ((num / den).log2 - 52) := by
    rw [← twoTo_add]
    exact twoTo_le_twoTo (by omega)
  have : num / den / twoTo ((num / den).log2 - 52) < twoTo 53 :=
    Nat.div_lt_of_lt_mul (by rw [Nat.mul_comm]; exact Nat.lt_of_lt_of_le hlt hpow)
  omega

/-- A rounded quotient lies on the grid, however large it is. -/
theorem onGrid_snap (num den : Nat) : snap num den % gridStep (snap num den) = 0 :=
  mod_gridStep_of_le (nearest_gridStep_le num den)

/-- A double: not a number, an infinity, or a whole number of quanta on the grid. -/
inductive Binary64 where
  | nan
  | infinite (negative : Bool)
  | finite (quanta : Int) (onGrid : OnGrid quanta.natAbs)
  deriving DecidableEq

namespace Binary64

/-- The double nearest to a quotient of quanta, or an infinity when it is too large. -/
def ofQuanta (num : Int) (den : Nat) : Binary64 :=
  let size := snap num.natAbs den
  if h : size < quantaLimit then
    if num < 0 then
      .finite (-(size : Int)) ⟨by rw [Int.natAbs_neg, Int.natAbs_natCast]; exact onGrid_snap _ _,
        by rw [Int.natAbs_neg, Int.natAbs_natCast]; exact h⟩
    else
      .finite size ⟨by rw [Int.natAbs_natCast]; exact onGrid_snap _ _,
        by rw [Int.natAbs_natCast]; exact h⟩
  else .infinite (num < 0)

/-- The double nearest to a quotient of whole numbers. -/
def ofRatio (num : Int) (den : Nat) : Binary64 :=
  ofQuanta (num * quantaPerOne) den

/-- The double nearest to a whole number. -/
def ofInt (n : Int) : Binary64 := ofRatio n 1

/-- The double nearest to a natural number. -/
def ofNat (n : Nat) : Binary64 := ofInt n

instance (n : Nat) : OfNat Binary64 n := ⟨ofNat n⟩

instance : Inhabited Binary64 := ⟨.nan⟩

/-! ## Arithmetic -/

/-- The opposite number. -/
def neg : Binary64 → Binary64
  | .nan => .nan
  | .infinite negative => .infinite (!negative)
  | .finite q h => .finite (-q) (by rw [Int.natAbs_neg]; exact h)

/-- The size without its sign. -/
def abs : Binary64 → Binary64
  | .nan => .nan
  | .infinite _ => .infinite false
  | .finite q h => .finite q.natAbs (by rw [Int.natAbs_natCast]; exact h)

/-- The sum, rounded once. -/
def add : Binary64 → Binary64 → Binary64
  | .nan, _ => .nan
  | _, .nan => .nan
  | .infinite a, .infinite b => if a = b then .infinite a else .nan
  | .infinite a, .finite _ _ => .infinite a
  | .finite _ _, .infinite b => .infinite b
  | .finite a _, .finite b _ => ofQuanta (a + b) 1

/-- The difference, rounded once. -/
def sub (x y : Binary64) : Binary64 := add x (neg y)

/-- The product, rounded once. -/
def mul : Binary64 → Binary64 → Binary64
  | .nan, _ => .nan
  | _, .nan => .nan
  | .infinite a, .infinite b => .infinite (a != b)
  | .infinite a, .finite q _ => if q = 0 then .nan else .infinite (a != decide (q < 0))
  | .finite q _, .infinite b => if q = 0 then .nan else .infinite (b != decide (q < 0))
  | .finite a _, .finite b _ => ofQuanta (a * b) quantaPerOne

/-- The quotient, rounded once.  A quotient by zero is infinite, or no number. -/
def div : Binary64 → Binary64 → Binary64
  | .nan, _ => .nan
  | _, .nan => .nan
  | .infinite _, .infinite _ => .nan
  | .infinite a, .finite q _ => .infinite (a != decide (q < 0))
  | .finite _ _, .infinite _ => 0
  | .finite a _, .finite b _ =>
    if b = 0 then
      if a = 0 then .nan else .infinite (decide (a < 0))
    else ofQuanta (a * quantaPerOne * b.sign) b.natAbs

instance : Neg Binary64 := ⟨neg⟩
instance : Add Binary64 := ⟨add⟩
instance : Sub Binary64 := ⟨sub⟩
instance : Mul Binary64 := ⟨mul⟩
instance : Div Binary64 := ⟨div⟩

/-- The sum of a list, from left to right. -/
def sum (xs : List Binary64) : Binary64 :=
  xs.foldl (· + ·) 0

theorem add_comm (x y : Binary64) : x + y = y + x := by
  show add x y = add y x
  cases x <;> cases y <;> simp [add]
  case infinite.infinite a b => cases a <;> cases b <;> simp
  case finite.finite a _ b _ => rw [Int.add_comm]

/-! ## Comparison

Nothing compares with what is not a number. -/

/-- Whether the first is less than the second. -/
def lt : Binary64 → Binary64 → Bool
  | .nan, _ => false
  | _, .nan => false
  | .infinite a, .infinite b => a && !b
  | .infinite a, .finite _ _ => a
  | .finite _ _, .infinite b => !b
  | .finite a _, .finite b _ => a < b

/-- Whether the first is at most the second. -/
def le : Binary64 → Binary64 → Bool
  | .nan, _ => false
  | _, .nan => false
  | .infinite a, .infinite b => a || !b
  | .infinite a, .finite _ _ => a
  | .finite _ _, .infinite b => !b
  | .finite a _, .finite b _ => a ≤ b

instance : LT Binary64 := ⟨fun x y => lt x y = true⟩
instance : LE Binary64 := ⟨fun x y => le x y = true⟩

instance (x y : Binary64) : Decidable (x < y) := inferInstanceAs (Decidable (lt x y = true))
instance (x y : Binary64) : Decidable (x ≤ y) := inferInstanceAs (Decidable (le x y = true))

theorem lt_irrefl (x : Binary64) : ¬x < x := by
  show ¬lt x x = true
  cases x with
  | nan => simp [lt]
  | infinite b => cases b <;> simp [lt]
  | finite q h => simp [lt]

/-- The second when it is less than the first, and else the first. -/
def min (x y : Binary64) : Binary64 := if y < x then y else x

/-- The second when it is more than the first, and else the first. -/
def max (x y : Binary64) : Binary64 := if x < y then y else x

/-! ## Whole numbers -/

/-- The greatest whole number that is not above a finite double. -/
def floor? : Binary64 → Option Int
  | .finite q _ => some (q / (quantaPerOne : Int))
  | _ => none

/-- The whole number nearest to a finite double, the even one of two that are equally near. -/
def round? : Binary64 → Option Int
  | .finite q _ => some (nearestInt q quantaPerOne)
  | _ => none

/-- A finite double in hundredths, rounded to the nearest, the even one of two that are equally
near. -/
def hundredths? : Binary64 → Option Int
  | .finite q _ => some (nearestInt (100 * q) quantaPerOne)
  | _ => none

/-- A double rounded to two decimals. -/
def toTwoPlaces (x : Binary64) : Binary64 :=
  match x.hundredths? with
  | some n => ofRatio n 100
  | none => x

/-- Whether the double is a number and not an infinity. -/
def isFinite : Binary64 → Bool
  | .finite _ _ => true
  | _ => false

/-- The whole number that the double is, when it is one. -/
def toInt? : Binary64 → Option Int
  | .finite q _ => if q % (quantaPerOne : Int) = 0 then some (q / (quantaPerOne : Int)) else none
  | _ => none

/-! ## The format of 64 bits -/

/-- The bits of a magnitude: 52 bits of the fraction below the exponent. -/
def magnitudeBits (n : Nat) : Nat :=
  let shift := n.log2 - 52
  if n < twoTo 52 then n else (shift + 1) * twoTo 52 + (n / twoTo shift - twoTo 52)

/-- The 64 bits of the double: sign, exponent and fraction. -/
def toBits : Binary64 → Nat
  | .nan => 0x7FF8000000000000
  | .infinite negative => (if negative then twoTo 63 else 0) + 0x7FF0000000000000
  | .finite q _ => (if q < 0 then twoTo 63 else 0) + magnitudeBits q.natAbs

end Binary64

end BukuKas.Number
