import BukuKas.Number.Decimal

/-!
# Money in the ledger

The ledger keeps amounts in hundredths, exactly, and adds them up exactly; only a result is rounded
to a double.  It takes the decimal with which a double is written, rounded to hundredths, a half up,
as long as that is positive and has at most eighteen digits.  Nothing else is taken: no infinity,
and nothing that rounds to zero.

## Main results

* `add_comm`, `add_assoc`, `total_append` : sums do not depend on order or grouping.
-/

namespace BukuKas

open Number (Binary64 Decimal)

/-- An amount of money as it is kept. -/
structure Cash where
  hundredths ::
  /-- How many hundredths it is. -/
  count : Nat
  deriving DecidableEq, Repr

namespace Cash

/-- No money. -/
def zero : Cash := .hundredths 0

/-- Both amounts together. -/
def add : Cash → Cash → Cash
  | .hundredths a, .hundredths b => .hundredths (a + b)

instance : Add Cash := ⟨add⟩

/-- All amounts together. -/
def total (xs : List Cash) : Cash := xs.foldr (· + ·) zero

/-- The double nearest to an amount. -/
def toDouble (a : Cash) : Binary64 :=
  match a.count with
  | 0 => 0
  | n + 1 => .ofRatio (n + 1 : Nat) 100

/-- The first number of hundredths that has more than eighteen digits. -/
def limit : Nat := Number.tenTo 18

/-- The amount that is kept of a decimal. -/
def ofDecimal? (d : Decimal) : Option Cash :=
  if 0 < d.hundredths ∧ d.hundredths < limit then some (.hundredths d.hundredths) else none

/-- The amount that is kept of a double. -/
def ofDouble? : Binary64 → Option Cash
  | .finite quanta _ => if 0 < quanta then ofDecimal? (.shortest quanta.toNat) else none
  | _ => none

/-- Whether the first amount is at most the second. -/
def le : Cash → Cash → Bool
  | .hundredths a, .hundredths b => a ≤ b

theorem toDouble_eq (a : Cash) : a.toDouble = .ofRatio a.count 100 := by
  unfold toDouble
  split
  · rename_i h
    rw [h]
    decide +kernel
  · rename_i n h
    rw [h]

theorem add_comm (a b : Cash) : a + b = b + a :=
  congrArg hundredths (Nat.add_comm a.count b.count)

theorem add_assoc (a b c : Cash) : a + b + c = a + (b + c) :=
  congrArg hundredths (Nat.add_assoc a.count b.count c.count)

theorem zero_add (a : Cash) : zero + a = a :=
  congrArg hundredths (Nat.zero_add a.count)

@[simp] theorem total_nil : total [] = zero := rfl

@[simp] theorem total_cons (a : Cash) (xs : List Cash) : total (a :: xs) = a + total xs := rfl

theorem total_append (xs ys : List Cash) : total (xs ++ ys) = total xs + total ys := by
  induction xs with
  | nil => simp [zero_add]
  | cons a xs ih => simp [ih, add_assoc]

end Cash

end BukuKas
