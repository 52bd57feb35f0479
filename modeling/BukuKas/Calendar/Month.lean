import BukuKas.Calendar.Date

/-!
# Months

The first and the last day of a month, and the month before.

## Main results

* `Date.lastOfMonth_day` : the last day of a month has the number of its days.
-/

namespace BukuKas.Calendar.Date

theorem twentyEight_le_daysInMonth {year month : Nat} (h1 : 1 ≤ month) (h12 : month ≤ 12) :
    28 ≤ daysInMonth year month := by
  have : month = 1 ∨ month = 2 ∨ month = 3 ∨ month = 4 ∨ month = 5 ∨ month = 6 ∨ month = 7 ∨
      month = 8 ∨ month = 9 ∨ month = 10 ∨ month = 11 ∨ month = 12 := by omega
  rcases this with rfl | rfl | rfl | rfl | rfl | rfl | rfl | rfl | rfl | rfl | rfl | rfl <;>
    simp only [daysInMonth] <;> (try split) <;> omega

/-- The day of the same month with the given number, or its last day when it is shorter. -/
def clipDay (d : Date) (day : Nat) : Date where
  year := d.year
  month := d.month
  day := min (max day 1) (daysInMonth d.year d.month)
  isDate := by
    obtain ⟨h1, h2, h3, h4, _, _⟩ := d.isDate
    have := @twentyEight_le_daysInMonth d.year d.month h3 h4
    exact ⟨h1, h2, h3, h4, by omega, by omega⟩

/-- The first day of the month. -/
def firstOfMonth (d : Date) : Date := d.clipDay 1

/-- The last day of the month. -/
def lastOfMonth (d : Date) : Date := d.clipDay 31

theorem daysInMonth_le (year month : Nat) : daysInMonth year month ≤ 31 := by
  unfold daysInMonth
  split <;> (try split) <;> omega

@[simp] theorem firstOfMonth_day (d : Date) : d.firstOfMonth.day = 1 := by
  obtain ⟨_, _, h3, h4, _, _⟩ := d.isDate
  have := @twentyEight_le_daysInMonth d.year d.month h3 h4
  simp only [firstOfMonth, clipDay]
  omega

@[simp] theorem lastOfMonth_day (d : Date) : d.lastOfMonth.day = daysInMonth d.year d.month := by
  have := daysInMonth_le d.year d.month
  simp only [lastOfMonth, clipDay]
  omega

/-- The first and the last day of the month. -/
def monthBounds (d : Date) : Date × Date := (d.firstOfMonth, d.lastOfMonth)

end BukuKas.Calendar.Date
