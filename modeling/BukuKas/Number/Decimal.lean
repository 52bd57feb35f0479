import BukuKas.Number.Significant

/-!
# Decimals of doubles

A double is written with the fewest digits that tell it from every other double: of the decimals
from which it is read again, one on the coarsest grid of powers of ten, and there the nearest to
it.  Such a decimal differs from the double by less than a double can tell, but it is the decimal,
and not the double, that is rounded where money is kept: a half is rounded up.
-/

namespace BukuKas.Number

/-- A decimal: so many units of a power of ten. -/
structure Decimal where
  units : Nat
  exponent : Int
  deriving DecidableEq, Repr

namespace Decimal

/-- The numerator of the decimal as a quotient. -/
def num (d : Decimal) : Nat := d.units * tenTo d.exponent.toNat

/-- The denominator of the decimal as a quotient. -/
def den (d : Decimal) : Nat := tenTo (-d.exponent).toNat

/-- The magnitude, in quanta, that is read from the decimal. -/
def quanta (d : Decimal) : Nat := snap (d.num * quantaPerOne) d.den

/-- The decimals on a grid between which a magnitude lies, the nearer one first. -/
def neighbours (q : Nat) (exponent : Int) : List Decimal :=
  let num := q * tenTo (-exponent).toNat
  let den := quantaPerOne * tenTo exponent.toNat
  let below : Decimal := ⟨num / den, exponent⟩
  let above : Decimal := ⟨num / den + 1, exponent⟩
  if 2 * (num % den) ≤ den then [below, above] else [above, below]

/-- The most digits that are needed to tell doubles from each other. -/
def enoughDigits : Nat := 17

/-- How many decimal places a quantum has. -/
def quantumPlaces : Nat := 1074

/-- The decimal that a magnitude is exactly. -/
def exact (q : Nat) : Decimal := ⟨q * Nat.pow 5 quantumPlaces, -(quantumPlaces : Int)⟩

/-- The decimal with which a magnitude is written.  The coarsest grid on which it may lie is that
of the power of ten above it. -/
def shortest (q : Nat) : Decimal :=
  let above := leadingExponent q quantaPerOne + 1
  let found? := (List.range (enoughDigits + 1)).findSome? fun (digits : Nat) =>
    (neighbours q (above - digits)).find? fun d => d.quanta == q
  found?.getD (exact q)

/-- The decimal in hundredths, rounded to the nearest, and a half up. -/
def hundredths (d : Decimal) : Nat := (200 * d.num + d.den) / (2 * d.den)

theorem den_pos (d : Decimal) : 0 < d.den := tenTo_pos _

end Decimal

end BukuKas.Number
