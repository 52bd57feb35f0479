import BukuKas.Number.Binary64
import BukuKas.Number.Numeral

/-!
# Significant digits

A double as it reads back when only so many of its decimal digits, counted from the first one that
is not zero, have been written: the decimal is rounded to the nearest, the even one of two that are
equally near, and the double nearest to that decimal is read.
-/

namespace BukuKas.Number

/-- The exponent of the first digit of a positive quotient, zero being that of the ones. -/
def leadingExponent (num den : Nat) : Int :=
  if den ≤ num then ((digitsOf (num / den)).length : Int) - 1
  else -((digitsOf ((den - 1) / num)).length : Int)

/-- The double that is read when so many significant digits of a double are written. -/
def Binary64.toSignificant (digits : Nat) (x : Binary64) : Binary64 :=
  match x with
  | .finite q _ =>
    if q = 0 then x
    else
      let places : Int := digits - 1 - leadingExponent q.natAbs quantaPerOne
      if 0 ≤ places then
        let scale : Nat := tenTo places.toNat
        ofRatio (nearestInt (q * scale) quantaPerOne) scale
      else
        let step : Nat := tenTo (-places).toNat
        ofRatio (nearestInt q (quantaPerOne * step) * step) 1
  | .infinite negative => .infinite negative
  | .nan => .nan

@[simp] theorem Binary64.toSignificant_infinite (digits : Nat) (negative : Bool) :
    toSignificant digits (.infinite negative) = .infinite negative := rfl

@[simp] theorem Binary64.toSignificant_nan (digits : Nat) : toSignificant digits .nan = .nan := rfl

end BukuKas.Number
