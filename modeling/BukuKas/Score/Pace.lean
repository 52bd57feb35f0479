import BukuKas.Fault
import BukuKas.Number.Binary64

/-!
# Health of a budget and mood of spending

Both are read from a ratio and a scale of limits: the first limit above the ratio gives the grade,
and beyond all limits, or where the ratio is no number, the last grade is given.
-/

namespace BukuKas.Score

open Number (Binary64)

/-- The first grade whose limit lies above the ratio, or the last grade. -/
def gradeOf {α : Type} (ratio : Binary64) (last : α) : List (Binary64 × α) → α
  | [] => last
  | (limit, grade) :: more => if ratio < limit then grade else gradeOf ratio last more

/-- How a budget does. -/
structure Health where
  /-- The letter of the grade. -/
  grade : String
  /-- What the grade means. -/
  label : String
  /-- Spending in relation to the time that has passed. -/
  ratio : Binary64
  deriving DecidableEq

namespace Health

/-- The limits of the grades. -/
def scale : List (Binary64 × (String × String)) := [
  (.ofRatio 5 10, ("A", "Sangat sehat")),
  (.ofRatio 8 10, ("B", "Sehat")),
  (1, ("C", "Cukup")),
  (.ofRatio 13 10, ("D", "Waspada"))]

/-- The share of the period that is left, in percent, between none and all of it. -/
def percentLeft (share : Binary64) : Binary64 :=
  Binary64.min (Binary64.max (share * 100) 0) 100

/-- The percentage of the budget that is spent, for each percent of the period that has passed;
one percent is added to what has passed, so that no period begins with a division by zero. -/
def ratioOf (spent budget share : Binary64) : Binary64 :=
  spent / budget * 100 / (100 - percentLeft share + 1)

/-- The health of a budget of which some is spent and some days are left.  The share of the days
that are left must be one that a double can hold. -/
def ofBudget (spent budget : Binary64) (daysLeft totalDays : Int) : Except Fault Health :=
  if budget ≤ 0 then .error .budgetNotPositive
  else if totalDays ≤ 0 then .error .daysNotPositive
  else
    let share := Binary64.ofRatio daysLeft totalDays.toNat
    if !share.isFinite then .error .quotientTooLarge
    else
      let ratio := ratioOf spent budget share
      let (grade, label) := gradeOf ratio ("F", "Bahaya") scale
      .ok ⟨grade, label, ratio⟩

end Health

/-- How the spending of a day compares with the days before. -/
structure Mood where
  /-- What the mood is called. -/
  label : String
  /-- Its face. -/
  face : String
  /-- The spending of the day in relation to the average. -/
  ratio : Binary64
  deriving DecidableEq

namespace Mood

/-- The limits of the moods. -/
def scale : List (Binary64 × (String × String)) := [
  (.ofRatio 5 10, ("Sangat Hemat", "😇")),
  (.ofRatio 8 10, ("Hemat", "😊")),
  (.ofRatio 12 10, ("Normal", "🙂")),
  (.ofRatio 15 10, ("Boros", "😬"))]

/-- Today in relation to the average.  Without an average nothing spent is frugal and anything else
is normal. -/
def ratioOf (today average : Binary64) : Binary64 :=
  if average ≤ 0 then (if today ≤ 0 then 0 else 1) else today / average

/-- The mood of a day. -/
def ofDay (today average : Binary64) : Mood :=
  let ratio := ratioOf today average
  let (label, face) := gradeOf ratio ("Sangat Boros", "🤯") scale
  ⟨label, face, ratio⟩

end Mood

end BukuKas.Score
