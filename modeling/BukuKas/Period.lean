import BukuKas.Calendar.Date
import BukuKas.Number.Binary64

/-!
# Budget periods

A budget holds for the days from a first to a last one, both included.

## Main results

* `daysLeft_after` : nothing is left after the last day.
-/

namespace BukuKas

open Calendar (Date)

/-- A period with its budget. -/
structure Period where
  /-- The number under which the period is kept. -/
  id : Nat
  /-- The money that may be spent. -/
  budget : Number.Binary64
  /-- The first day. -/
  start : Date
  /-- The last day. -/
  stop : Date
  deriving DecidableEq

namespace Period

/-- The number of days of the period. -/
def totalDays (p : Period) : Int :=
  p.start.daysUntil p.stop + 1

/-- The days that are left, today being one of them: none after the period, all before it. -/
def daysLeft (p : Period) (today : Date) : Int :=
  if p.stop < today then 0
  else if today < p.start then p.totalDays
  else today.daysUntil p.stop + 1

/-- The days that have passed, today being one of them: at least one and at most all. -/
def elapsed (p : Period) (today : Date) : Int :=
  min (max (p.totalDays - p.daysLeft today + 1) 1) p.totalDays

theorem daysLeft_after {p : Period} {today : Date} (h : p.stop < today) : p.daysLeft today = 0 := by
  simp [daysLeft, h]

end Period

/-- A period with what has been spent in it. -/
structure BudgetStatus where
  /-- The period. -/
  period : Period
  /-- The sum of the expenses in it. -/
  spent : Number.Binary64
  deriving DecidableEq

namespace BudgetStatus

open Number (Binary64)

/-- The money of the period. -/
def budget (s : BudgetStatus) : Binary64 := s.period.budget

/-- What is left of it, below zero when too much was spent. -/
def remaining (s : BudgetStatus) : Binary64 := s.budget - s.spent

/-- The share that is spent, zero when there is no budget. -/
def usedRatio (s : BudgetStatus) : Binary64 :=
  if s.budget ≤ 0 then 0 else s.spent / s.budget

end BudgetStatus

end BukuKas
