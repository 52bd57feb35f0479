/-!
# Rounding a quotient to the nearest whole number

A quotient of natural numbers is rounded to the nearest natural number, and a quotient halfway
between two of them to the even one.  Doubles, sums of money and printed numbers are all rounded
by this rule.

## Main results

* `nearest_le_succ`, `div_le_nearest` : the result is the quotient rounded down, or one more.
* `nearest_mul` : a whole quotient is not moved.
-/

namespace BukuKas.Number

/-- The whole number nearest to the quotient, the even one of two that are equally near. -/
def nearest (num den : Nat) : Nat :=
  let quotient := num / den
  let twice := 2 * (num % den)
  if twice < den then quotient
  else if den < twice then quotient + 1
  else quotient + quotient % 2

/-- The same rule for a numerator of either sign. -/
def nearestInt (num : Int) (den : Nat) : Int :=
  if num < 0 then -(nearest num.natAbs den : Int) else nearest num.natAbs den

theorem div_le_nearest (num den : Nat) : num / den ≤ nearest num den := by
  unfold nearest
  dsimp only
  split
  · omega
  · split <;> omega

theorem nearest_le_succ (num den : Nat) : nearest num den ≤ num / den + 1 := by
  unfold nearest
  dsimp only
  split
  · omega
  · split
    · omega
    · have := Nat.mod_lt (num / den) (show 2 > 0 by decide)
      omega

theorem nearest_mul {den : Nat} (q : Nat) (h : 0 < den) : nearest (q * den) den = q := by
  unfold nearest
  dsimp only
  rw [Nat.mul_div_cancel _ h, Nat.mul_mod_left]
  simp [h]

@[simp] theorem nearest_zero (den : Nat) : nearest 0 den = 0 := by
  unfold nearest
  dsimp only
  simp

end BukuKas.Number
