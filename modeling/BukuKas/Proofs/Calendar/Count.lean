import BukuKas.Calendar.Month

/-!
# Counting days is sound

The count of days runs through all dates in their order without a gap: every number from the first
to the last one is that of a date, a later date has a larger number, and the date of a number has
that number.  So adding days fails only where the result would leave the years.

The search for a date goes from the largest unit of the calendar to the smallest.  In the last year
of a unit there can be a day more, and the only numbers that the divisions could put one year too
far are those of such days; the two `min` keep them back, and `yearAndDay_spec` shows that nothing
else does.

## Main results

* `number_lt_of_lt`, `number_le_of_le` : numbers have the order of the dates.
* `exists_ofNumber?` : every number up to the last one is that of a date.
* `exists_addDays?` : when days can be added.
-/

namespace BukuKas.Calendar.Date

/-! ## Months and years -/

theorem daysBeforeMonth_succ (year : Nat) {month : Nat} (h : 1 ≤ month) :
    daysBeforeMonth year (month + 1) = daysBeforeMonth year month + daysInMonth year month := by
  cases month with
  | zero => omega
  | succ month => rfl

theorem daysBeforeMonth_mono (year : Nat) {month later : Nat} (h : 1 ≤ month)
    (hlater : month < later) :
    daysBeforeMonth year month + daysInMonth year month ≤ daysBeforeMonth year later := by
  induction later with
  | zero => omega
  | succ later ih =>
      rw [daysBeforeMonth_succ year (by omega)]
      by_cases hsame : month = later
      · exact Nat.le_of_eq (by rw [hsame])
      · have hih := ih (by omega)
        omega

/-- The days of the months are those of the year. -/
theorem daysBeforeMonth_thirteen (year : Nat) : daysBeforeMonth year 13 = daysInYear year := by
  simp only [daysBeforeMonth, daysInMonth, daysInYear]
  split <;> rfl

theorem isLeap_iff (year : Nat) :
    isLeap year = true ↔ year % 4 = 0 ∧ (year % 100 ≠ 0 ∨ year % 400 = 0) := by
  simp [isLeap]

theorem daysBeforeYear_succ {year : Nat} (h : 1 ≤ year) :
    daysBeforeYear (year + 1) = daysBeforeYear year + daysInYear year := by
  obtain ⟨past, rfl⟩ : ∃ past, year = past + 1 := ⟨year - 1, by omega⟩
  have hleap := isLeap_iff (past + 1)
  -- A quotient grows exactly in the years that its divisor divides.
  have hfour : (past + 1) / 4 = past / 4 + if 4 ∣ past + 1 then 1 else 0 := Nat.succ_div
  have hhundred : (past + 1) / 100 = past / 100 + if 100 ∣ past + 1 then 1 else 0 := Nat.succ_div
  have hfourHundred : (past + 1) / 400 = past / 400 + if 400 ∣ past + 1 then 1 else 0 :=
    Nat.succ_div
  simp only [Nat.dvd_iff_mod_eq_zero] at hfour hhundred hfourHundred
  unfold daysInYear daysBeforeYear
  simp only [Nat.add_sub_cancel]
  rw [hfour, hhundred, hfourHundred]
  clear hfour hhundred hfourHundred
  have hle : past / 100 ≤ past / 4 := by omega
  by_cases h4 : (past + 1) % 4 = 0 <;> by_cases h100 : (past + 1) % 100 = 0 <;>
    by_cases h400 : (past + 1) % 400 = 0 <;>
      simp only [h4, h100, h400, hleap, if_true, if_false, ne_eq, not_true_eq_false,
        not_false_eq_true, and_true, true_and, false_and, or_true, or_false] <;> omega

theorem daysBeforeYear_mono {year later : Nat} (h : 1 ≤ year) (hlater : year < later) :
    daysBeforeYear year + daysInYear year ≤ daysBeforeYear later := by
  induction later with
  | zero => omega
  | succ later ih =>
      rw [daysBeforeYear_succ (by omega)]
      by_cases hsame : year = later
      · exact Nat.le_of_eq (by rw [hsame])
      · have hih := ih (by omega)
        omega

/-! ## The order of numbers -/

/-- A day of a month of a year is one of the days of the year. -/
theorem dayOfYear_le {year month day : Nat} (h : IsDate year month day) :
    1 ≤ daysBeforeMonth year month + day ∧ daysBeforeMonth year month + day ≤ daysInYear year := by
  obtain ⟨-, -, hmonth, htwelve, hday, hlast⟩ := h
  have hmono := daysBeforeMonth_mono year hmonth (show month < 13 by omega)
  rw [daysBeforeMonth_thirteen] at hmono
  omega

/-- A later date has a larger number. -/
theorem number_lt_of_lt {d e : Date} (h : d < e) : d.number < e.number := by
  have hbefore : before d e = true := h
  obtain ⟨hdlow, hdhigh⟩ := dayOfYear_le d.isDate
  obtain ⟨helow, -⟩ := dayOfYear_le e.isDate
  simp only [before, Bool.or_eq_true, Bool.and_eq_true, decide_eq_true_eq, beq_iff_eq] at hbefore
  unfold number
  rcases hbefore with hyear | ⟨hyear, hmonth | ⟨hmonth, hday⟩⟩
  · have hmono := daysBeforeYear_mono d.isDate.1 hyear
    omega
  · have hmono := daysBeforeMonth_mono d.year d.isDate.2.2.1 hmonth
    have hlast : d.day ≤ daysInMonth d.year d.month := d.isDate.2.2.2.2.2
    have hfirst : 1 ≤ e.day := e.isDate.2.2.2.2.1
    rw [← hyear]
    omega
  · rw [← hyear, ← hmonth]
    omega

theorem lt_or_eq_of_le {d e : Date} (h : d ≤ e) : d < e ∨ d = e := by
  have hnot : before e d = false := h
  by_cases hbefore : d < e
  · exact .inl hbefore
  · right
    have hother : before d e = false := Bool.eq_false_iff.mpr hbefore
    simp only [before, Bool.or_eq_false_iff, Bool.and_eq_false_iff, decide_eq_false_iff_not,
      beq_eq_false_iff_ne] at hnot hother
    rw [ext_iff_parts]
    omega

theorem number_le_of_le {d e : Date} (h : d ≤ e) : d.number ≤ e.number := by
  rcases lt_or_eq_of_le h with hlt | heq
  · exact Nat.le_of_lt (number_lt_of_lt hlt)
  · exact Nat.le_of_eq (by rw [heq])

theorem le_of_not_lt {d e : Date} (h : ¬d < e) : e ≤ d := Bool.eq_false_iff.mpr h

theorem one_le_number (d : Date) : 1 ≤ d.number := by
  obtain ⟨hlow, -⟩ := dayOfYear_le d.isDate
  unfold number
  omega

theorem number_le_lastNumber (d : Date) : d.number ≤ lastNumber := by
  obtain ⟨-, hhigh⟩ := dayOfYear_le d.isDate
  have hlast : daysBeforeYear 10000 = lastNumber := by decide
  have hmono := daysBeforeYear_mono d.isDate.1 (show d.year < 10000 by have := d.isDate.2.1; omega)
  unfold number
  omega

/-! ## The date of a number -/

/-- The last year of a leap period is leap, unless the period ends a century that does not end a
cycle. -/
theorem isLeap_of_parts {cycles centuries periods : Nat} (hperiods : periods ≤ 24)
    (hlast : periods = 24 → centuries = 3) :
    isLeap (cycles * 400 + centuries * 100 + periods * 4 + 3 + 1) = true := by
  have hfour : (cycles * 400 + centuries * 100 + periods * 4 + 3 + 1) % 4 = 0 := by omega
  refine (isLeap_iff _).mpr ⟨hfour, ?_⟩
  by_cases hend : periods = 24
  · have hcenturies := hlast hend
    exact .inr (by omega)
  · exact .inl (by omega)

/-- The year of a day and its place in the year, found by dividing. -/
theorem yearAndDay_spec {past : Nat} (h : past < lastNumber) :
    (yearAndDay past).1 < 9999 ∧
      daysBeforeYear ((yearAndDay past).1 + 1) + (yearAndDay past).2 = past ∧
      (yearAndDay past).2 < daysInYear ((yearAndDay past).1 + 1) := by
  unfold lastNumber at h
  unfold yearAndDay daysBeforeYear
  dsimp only
  have hcycle : past = 146097 * (past / 146097) + past % 146097 := by omega
  have hinCycle : past % 146097 < 146097 := Nat.mod_lt past (by decide)
  generalize past / 146097 = cycles at *
  generalize past % 146097 = inCycle at *
  have hcentury : inCycle = min (inCycle / 36524) 3 * 36524 +
      (inCycle - min (inCycle / 36524) 3 * 36524) ∧
      min (inCycle / 36524) 3 ≤ 3 ∧ inCycle - min (inCycle / 36524) 3 * 36524 ≤ 36524 ∧
      (inCycle - min (inCycle / 36524) 3 * 36524 = 36524 → min (inCycle / 36524) 3 = 3) := by omega
  generalize inCycle - min (inCycle / 36524) 3 * 36524 = inCentury at *
  generalize min (inCycle / 36524) 3 = centuries at *
  have hperiod : inCentury = 1461 * (inCentury / 1461) + inCentury % 1461 := by omega
  have hinPeriod : inCentury % 1461 < 1461 := Nat.mod_lt inCentury (by decide)
  generalize inCentury / 1461 = periods at *
  generalize inCentury % 1461 = inPeriod at *
  have hyears : inPeriod = min (inPeriod / 365) 3 * 365 +
      (inPeriod - min (inPeriod / 365) 3 * 365) ∧
      min (inPeriod / 365) 3 ≤ 3 ∧ inPeriod - min (inPeriod / 365) 3 * 365 ≤ 365 ∧
      (inPeriod - min (inPeriod / 365) 3 * 365 = 365 → min (inPeriod / 365) 3 = 3) := by omega
  generalize inPeriod - min (inPeriod / 365) 3 * 365 = day at *
  generalize min (inPeriod / 365) 3 = years at *
  have hperiods : periods ≤ 24 := by omega
  have hlast : cycles * 400 + centuries * 100 + periods * 4 + years < 9999 := by omega
  -- The parts are the digits of the year in the mixed base of the calendar.
  have hfour : (cycles * 400 + centuries * 100 + periods * 4 + years) / 4 =
      cycles * 100 + centuries * 25 + periods := by omega
  have hhundred : (cycles * 400 + centuries * 100 + periods * 4 + years) / 100 =
      cycles * 4 + centuries := by omega
  have hfourHundred : (cycles * 400 + centuries * 100 + periods * 4 + years) / 400 = cycles := by
    omega
  have hsum : (cycles * 400 + centuries * 100 + periods * 4 + years) * 365 +
      (cycles * 100 + centuries * 25 + periods) - (cycles * 4 + centuries) + cycles +
        day = past := by
    omega
  have hinYear : day < 366 ∧ (day = 365 → years = 3 ∧ (periods = 24 → centuries = 3)) := by omega
  rw [Nat.add_sub_cancel, hfour, hhundred, hfourHundred]
  refine ⟨hlast, hsum, ?_⟩
  unfold daysInYear
  split
  · exact hinYear.1
  · rename_i hnot
    have hday : day ≠ 365 := by
      intro hday
      obtain ⟨rfl, hperiod⟩ := hinYear.2 hday
      exact hnot (isLeap_of_parts hperiods hperiod)
    omega

/-- The month of a day of the year and its place in the month, found by going through the months. -/
theorem monthAndDay_spec (year : Nat) {months month dayOfYear : Nat} (hmonth : 1 ≤ month)
    (hmonths : month + months = 12)
    (hday : daysBeforeMonth year month + dayOfYear < daysInYear year) :
    (month ≤ (monthAndDay year months month dayOfYear).1 ∧
        (monthAndDay year months month dayOfYear).1 ≤ 12) ∧
      (1 ≤ (monthAndDay year months month dayOfYear).2 ∧
        (monthAndDay year months month dayOfYear).2 ≤
          daysInMonth year (monthAndDay year months month dayOfYear).1) ∧
      daysBeforeMonth year (monthAndDay year months month dayOfYear).1 +
          (monthAndDay year months month dayOfYear).2 =
        daysBeforeMonth year month + dayOfYear + 1 := by
  induction months generalizing month dayOfYear with
  | zero =>
      have htwelve : month = 12 := by omega
      have hyear := daysBeforeMonth_thirteen year
      rw [daysBeforeMonth_succ year (show 1 ≤ 12 by decide)] at hyear
      subst htwelve
      rw [monthAndDay]
      dsimp only
      refine ⟨⟨Nat.le_refl _, Nat.le_refl _⟩, ⟨Nat.le_add_left 1 _, ?_⟩, (Nat.add_assoc _ _ _).symm⟩
      omega
  | succ months ih =>
      rw [monthAndDay]
      split
      · rename_i hlt
        exact ⟨⟨Nat.le_refl _, by omega⟩, ⟨Nat.le_add_left 1 _, hlt⟩, rfl⟩
      · have hsucc := daysBeforeMonth_succ year hmonth
        obtain ⟨⟨hlow, hhigh⟩, hbounds, hsum⟩ :=
          @ih (month + 1) (dayOfYear - daysInMonth year month) (by omega) (by omega) (by omega)
        exact ⟨⟨by omega, hhigh⟩, hbounds, by omega⟩

/-- Every number from the first to the last one is that of a date, and the search finds it. -/
theorem exists_ofNumber? {n : Nat} (h : 1 ≤ n) (hlast : n ≤ lastNumber) :
    ∃ d, ofNumber? n = some d ∧ d.number = n := by
  obtain ⟨hyear, hsum, hinYear⟩ := yearAndDay_spec (show n - 1 < lastNumber by omega)
  obtain ⟨⟨hmonthLow, hmonthHigh⟩, ⟨hdayLow, hdayHigh⟩, hday⟩ :=
    @monthAndDay_spec ((yearAndDay (n - 1)).1 + 1) 11 1 (yearAndDay (n - 1)).2
      (by decide) (by decide) (by rw [daysBeforeMonth, Nat.zero_add]; exact hinYear)
  refine ⟨⟨_, _, _, ⟨Nat.le_add_left 1 _, by omega, hmonthLow, hmonthHigh, hdayLow, hdayHigh⟩⟩,
    ?_, ?_⟩
  · unfold ofNumber?
    rw [if_neg (by omega)]
    dsimp only
    unfold ofParts?
    rw [dif_pos ⟨Nat.le_add_left 1 _, by omega, hmonthLow, hmonthHigh, hdayLow, hdayHigh⟩]
  · unfold number
    dsimp only
    rw [daysBeforeMonth] at hday
    omega

/-- Days can be added as long as the result lies in the years. -/
theorem exists_addDays? (d : Date) (days : Int) (hlow : 1 ≤ (d.number : Int) + days)
    (hhigh : (d.number : Int) + days ≤ lastNumber) :
    ∃ e, d.addDays? days = some e ∧ (e.number : Int) = d.number + days := by
  obtain ⟨e, he, hnumber⟩ :=
    exists_ofNumber? (n := ((d.number : Int) + days).toNat) (by omega) (by omega)
  refine ⟨e, ?_, by omega⟩
  unfold addDays?
  dsimp only
  rw [if_neg (by omega), he]

end BukuKas.Calendar.Date
