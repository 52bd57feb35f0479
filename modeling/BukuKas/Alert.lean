import BukuKas.Money
import BukuKas.Period

/-!
# The budget alert

A warning when the share of the budget that is spent reaches a threshold, and another one when all
of it is spent.
-/

namespace BukuKas.Alert

open Number (Binary64 roundedText)

/-- The warning that a status calls for, if any. -/
def ofStatus (threshold : Binary64) (status : BudgetStatus) : Option String :=
  let percent := roundedText (status.usedRatio * 100)
  if status.budget ≤ 0 then none
  else if 1 ≤ status.usedRatio then
    some ("🚨 *Budget habis!* Terpakai " ++ percent ++ "% (lebih " ++
      Money.text (-status.remaining) ++ ").")
  else if threshold ≤ status.usedRatio then
    some ("⚠️ *Hati-hati!* Budget sudah terpakai " ++ percent ++ "%. Sisa " ++
      Money.text status.remaining ++ ".")
  else none

/-- The warning when there may be no period at all. -/
def message? (threshold : Binary64) (status : Option BudgetStatus) : Option String :=
  status.bind (ofStatus threshold)

@[simp] theorem message?_none (threshold : Binary64) : message? threshold none = none := rfl

end BukuKas.Alert
