import BukuKas.Number.Numeral
import BukuKas.Text.Case

/-!
# Money and progress as text

An amount is shown as a whole number with a point between its groups of three digits, behind the
sign of the currency; a half is rounded to the even neighbour.  A share of a budget is shown as a
bar of ten blocks.

## Main results

* `currencySign_idr` : rupiah have a sign of their own.
-/

namespace BukuKas

open Number (Binary64 groupedDigits roundedText nearest quantaPerOne)

namespace Money

/-- What stands before the digits: `Rp` for rupiah, and else the name of the currency in capitals
and a space. -/
def currencySign (currency : String) : String :=
  let capitals := String.ofList (Text.upper currency.toList)
  if capitals == "IDR" then "Rp" else capitals ++ " "

@[simp] theorem currencySign_idr : currencySign "IDR" = "Rp" := by decide +kernel

/-- The digits of an amount without its sign, in groups of three. -/
def digitsText : Binary64 → String
  | .nan => "nan"
  | .infinite _ => "inf"
  | .finite quanta _ => String.ofList (groupedDigits (nearest quanta.natAbs quantaPerOne))

/-- An amount in the given currency. -/
def textIn (currency : String) (amount : Binary64) : String :=
  (if amount < 0 then "-" else "") ++ currencySign currency ++ digitsText amount

/-- An amount in rupiah. -/
def text (amount : Binary64) : String :=
  textIn "IDR" amount

end Money

namespace Progress

/-- The number of blocks of a bar. -/
def blocks : Nat := 10

/-- A percentage as it is shown: at least zero and at most a hundred. -/
def shown (percent : Binary64) : Binary64 :=
  Binary64.max 0 (Binary64.min percent 100)

/-- The number of full blocks. -/
def fullBlocks (percent : Binary64) : Nat :=
  min (((shown percent / 100 * Binary64.ofNat blocks).round?.getD 0).toNat) blocks

theorem fullBlocks_le (percent : Binary64) : fullBlocks percent ≤ blocks :=
  Nat.min_le_right _ _

/-- The bar with its percentage. -/
def bar (percent : Binary64) : String :=
  let full := fullBlocks percent
  String.ofList (['['] ++ List.replicate full '█' ++ List.replicate (blocks - full) '░' ++
    [']', ' ']) ++
    roundedText (shown percent) ++ "%"

/-- By how many percent the first amount is above the second; nothing when there is no positive
amount to compare with. -/
def change? (current previous : Binary64) : Option Binary64 :=
  if previous ≤ 0 then none else some ((current - previous) / previous * 100)

end Progress

end BukuKas
