import BukuKas.Proofs.Calendar.Span

/-!
# Months as spans of days

The days of a month have numbers that follow each other, beginning behind all months and years
before.  So a month is the span from its first to its last day, a day of it lies as far behind the
first one as its number says, and the day before the first one is the last day of the month before.

## Main results

* `ofParts?_firstOfMonth`, `ofParts?_lastOfMonth`, `mem_month_iff` : the bounds of a month.
* `length_span_of_month` : how many days of a month there are up to a day.
* `IsLast.of_dayBefore` : the day before a month.
* `nextDay_cases` : a day and the one after it.
-/

namespace BukuKas.Calendar.Date

/-! ## The bounds of a month -/

theorem ofParts?_firstOfMonth (d : Date) : ofParts? d.year d.month 1 = some d.firstOfMonth := by
  have hfirst := ofParts?_parts d.firstOfMonth
  rwa [firstOfMonth_day] at hfirst

theorem ofParts?_lastOfMonth (d : Date) :
    ofParts? d.year d.month (daysInMonth d.year d.month) = some d.lastOfMonth := by
  have hlast := ofParts?_parts d.lastOfMonth
  rwa [lastOfMonth_day] at hlast

theorem day_clipDay (d : Date) {day : Nat} (h : 1 ≤ day) :
    (d.clipDay day).day = min day (daysInMonth d.year d.month) := by
  simp only [clipDay]
  omega

/-- A day that the month has is found as it is, and so is the last day in place of a later one. -/
theorem ofParts?_clipDay (d : Date) {day : Nat} (h : 1 ≤ day) :
    ofParts? d.year d.month (min day (daysInMonth d.year d.month)) = some (d.clipDay day) := by
  have hclip := ofParts?_parts (d.clipDay day)
  rwa [day_clipDay d h] at hclip

/-- The day of the month counts the days from the first one on. -/
theorem number_eq_add_day (d : Date) : d.number + 1 = d.firstOfMonth.number + d.day := by
  have hday := firstOfMonth_day d
  have hyear : d.firstOfMonth.year = d.year := rfl
  have hmonth : d.firstOfMonth.month = d.month := rfl
  rw [number, number, hyear, hmonth, hday]
  omega

/-- A month is the span from its first to its last day. -/
theorem mem_month_iff {d e : Date} :
    d.firstOfMonth ≤ e ∧ e ≤ d.lastOfMonth ↔ e.year = d.year ∧ e.month = d.month := by
  have hfirst := firstOfMonth_day d
  have hlast := lastOfMonth_day d
  obtain ⟨-, -, -, -, hday, hbound⟩ := e.isDate
  show before e d.firstOfMonth = false ∧ before d.lastOfMonth e = false ↔ _
  simp only [before, Bool.or_eq_false_iff, Bool.and_eq_false_iff, decide_eq_false_iff_not,
    beq_eq_false_iff_ne, show d.firstOfMonth.year = d.year from rfl,
    show d.firstOfMonth.month = d.month from rfl, show d.lastOfMonth.year = d.year from rfl,
    show d.lastOfMonth.month = d.month from rfl, hfirst, hlast]
  constructor
  · omega
  · rintro ⟨hyear, hmonth⟩
    rw [hyear, hmonth] at hbound
    omega

/-- From the first day of its month to a day there are as many days as the day says. -/
theorem length_span_of_month (d : Date) : (span d.firstOfMonth d).length = d.day := by
  rw [length_span, number_eq_add_day]
  omega

/-! ## The month before -/

/-- The date is the last one of its month, and the first date lies in the month behind it. -/
structure IsLast (first last : Date) : Prop where
  day : last.day = daysInMonth last.year last.month
  month : (last.year = first.year ∧ last.month + 1 = first.month) ∨
    (last.year + 1 = first.year ∧ last.month = 12 ∧ first.month = 1)

/-- The day before the first of January ends the year before. -/
theorem IsLast.of_january {first last : Date} (hday : first.day = 1) (hjanuary : first.month = 1)
    (h : last.number + 1 = first.number) : IsLast first last := by
  have hnumber : first.number = daysBeforeYear first.year + 1 := by
    rw [number, hjanuary, hday]
    rfl
  have hyear : 2 ≤ first.year := by
    have hlast := last.one_le_number
    have hone := first.isDate.1
    by_cases hfirst : first.year = 1
    · have hbefore : daysBeforeYear 1 = 0 := rfl
      rw [hnumber, hfirst, hbefore] at h
      omega
    · omega
  have hdays : daysInMonth (first.year - 1) 12 = 31 := rfl
  have hdate : IsDate (first.year - 1) 12 31 :=
    ⟨by omega, by have := first.isDate.2.1; omega, by decide, by decide, by decide,
      Nat.le_of_eq hdays.symm⟩
  have hend : (⟨_, _, _, hdate⟩ : Date).number = daysBeforeYear first.year := by
    have hyears := @daysBeforeYear_succ (first.year - 1) (by omega)
    rw [← daysBeforeMonth_thirteen, daysBeforeMonth_succ _ (by decide), hdays,
      Nat.sub_add_cancel first.isDate.1] at hyears
    rw [hyears, ← Nat.add_assoc]
    rfl
  obtain rfl : (⟨_, _, _, hdate⟩ : Date) = last := number_inj.mp (by omega)
  exact ⟨hdays.symm, .inr ⟨Nat.sub_add_cancel first.isDate.1, rfl, hjanuary⟩⟩

/-- The day before the first of another month ends the month before it. -/
theorem IsLast.of_other {first last : Date} (hday : first.day = 1) (hother : first.month ≠ 1)
    (h : last.number + 1 = first.number) : IsLast first last := by
  obtain ⟨hyear, hend, hmonth, htwelve, -, -⟩ := first.isDate
  have hlong := @twentyEight_le_daysInMonth first.year (first.month - 1) (by omega) (by omega)
  have hdate : IsDate first.year (first.month - 1) (daysInMonth first.year (first.month - 1)) :=
    ⟨hyear, hend, by omega, by omega, by omega, Nat.le_refl _⟩
  have hnumber : first.number = (⟨_, _, _, hdate⟩ : Date).number + 1 := by
    have hmonths := @daysBeforeMonth_succ first.year (first.month - 1) (by omega)
    rw [Nat.sub_add_cancel hmonth] at hmonths
    rw [number, hday, hmonths, ← Nat.add_assoc]
    rfl
  obtain rfl : (⟨_, _, _, hdate⟩ : Date) = last := number_inj.mp (by omega)
  exact ⟨rfl, .inl ⟨rfl, Nat.sub_add_cancel hmonth⟩⟩

/-- The day before the first one of a month is the last day of the month before. -/
theorem IsLast.of_dayBefore {first last : Date} (hday : first.day = 1)
    (h : first.addDays? (-1) = some last) : IsLast first last := by
  rw [addDays?_eq_some_iff] at h
  by_cases hjanuary : first.month = 1
  · exact of_january hday hjanuary (by omega)
  · exact of_other hday hjanuary (by omega)

/-! ## From day to day -/

/-- The day after a day is the next one of the same month, or the first one of the month behind
it. -/
theorem nextDay_cases {d e : Date} (h : d.addDays? 1 = some e) :
    (e.year = d.year ∧ e.month = d.month ∧ e.day = d.day + 1) ∨ (e.day = 1 ∧ IsLast e d) := by
  rw [addDays?_eq_some_iff] at h
  by_cases hfirst : e.day = 1
  · exact .inr ⟨hfirst, IsLast.of_dayBefore hfirst (addDays?_eq_some_iff.mpr (by omega))⟩
  · left
    obtain ⟨hyear, hend, hmonth, htwelve, hday, hlast⟩ := e.isDate
    have hdate : IsDate e.year e.month (e.day - 1) :=
      ⟨hyear, hend, hmonth, htwelve, by omega, by omega⟩
    have hnumber : (⟨_, _, _, hdate⟩ : Date).number + 1 = e.number := by
      rw [number, number]
      dsimp only
      omega
    obtain rfl : (⟨_, _, _, hdate⟩ : Date) = d := number_inj.mp (by omega)
    exact ⟨rfl, rfl, (Nat.sub_add_cancel hday).symm⟩

end BukuKas.Calendar.Date
