/-!
# Dates

The dates of the Gregorian calendar, extended backwards, in the years 1 to 9999.  A date knows that
it exists.  Days are counted from the first day of year 1, which has number 1; adding days goes
through this count, and a result outside the years is refused.

## Main results

* `Date.ofParts?_parts` : a date is found again from its year, month and day.
* `Date.ext_iff_parts` : two dates with the same year, month and day are the same.
-/

namespace BukuKas.Calendar

/-- Every fourth year is a leap year, but of the full centuries only every fourth. -/
def isLeap (year : Nat) : Bool :=
  year % 4 == 0 && (year % 100 != 0 || year % 400 == 0)

/-- The number of days of a month, zero for what is no month. -/
def daysInMonth (year month : Nat) : Nat :=
  match month with
  | 1 | 3 | 5 | 7 | 8 | 10 | 12 => 31
  | 4 | 6 | 9 | 11 => 30
  | 2 => if isLeap year then 29 else 28
  | _ => 0

/-- The number of days of a year. -/
def daysInYear (year : Nat) : Nat :=
  if isLeap year then 366 else 365

/-- Whether there is such a date. -/
def IsDate (year month day : Nat) : Prop :=
  1 ≤ year ∧ year ≤ 9999 ∧ 1 ≤ month ∧ month ≤ 12 ∧ 1 ≤ day ∧ day ≤ daysInMonth year month

instance (year month day : Nat) : Decidable (IsDate year month day) := by
  unfold IsDate
  infer_instance

/-- A day of the calendar. -/
structure Date where
  /-- The year, from 1 to 9999. -/
  year : Nat
  /-- The month, from 1 to 12. -/
  month : Nat
  /-- The day of the month. -/
  day : Nat
  /-- There is such a date. -/
  isDate : IsDate year month day
  deriving DecidableEq

namespace Date

/-- The date with these parts, if there is one. -/
def ofParts? (year month day : Nat) : Option Date :=
  if h : IsDate year month day then some ⟨year, month, day, h⟩ else none

@[simp] theorem ofParts?_parts (d : Date) : ofParts? d.year d.month d.day = some d := by
  simp [ofParts?, d.isDate]

theorem ext_iff_parts {d e : Date} :
    d = e ↔ d.year = e.year ∧ d.month = e.month ∧ d.day = e.day := by
  cases d
  cases e
  simp

/-! ## Order -/

/-- Whether the first date comes before the second. -/
def before (d e : Date) : Bool :=
  d.year < e.year || (d.year == e.year &&
    (d.month < e.month || (d.month == e.month && d.day < e.day)))

instance : LT Date := ⟨fun d e => before d e = true⟩
instance : LE Date := ⟨fun d e => before e d = false⟩

instance (d e : Date) : Decidable (d < e) := inferInstanceAs (Decidable (before d e = true))
instance (d e : Date) : Decidable (d ≤ e) := inferInstanceAs (Decidable (before e d = false))

/-- Whether the date lies in the span, both ends included. -/
def within (d start stop : Date) : Bool :=
  decide (start ≤ d) && decide (d ≤ stop)

/-! ## Counting days -/

/-- The number of days before the first of January. -/
def daysBeforeYear (year : Nat) : Nat :=
  let past := year - 1
  past * 365 + past / 4 - past / 100 + past / 400

/-- The number of days of the year before the first of the month. -/
def daysBeforeMonth (year : Nat) : (month : Nat) → Nat
  | 0 => 0
  | 1 => 0
  | month + 2 => daysBeforeMonth year (month + 1) + daysInMonth year (month + 1)

/-- The number of the day, the first day of year 1 being day 1. -/
def number (d : Date) : Nat :=
  daysBeforeYear d.year + daysBeforeMonth d.year d.month + d.day

/-- The number of the last day of year 9999. -/
def lastNumber : Nat := 3652059

/-- The month and the day of the month of a day of the year, counted from zero, the search
beginning at the given month. -/
def monthAndDay (year : Nat) : (months month dayOfYear : Nat) → Nat × Nat
  | 0, month, dayOfYear => (month, dayOfYear + 1)
  | months + 1, month, dayOfYear =>
    if dayOfYear < daysInMonth year month then (month, dayOfYear + 1)
    else monthAndDay year months (month + 1) (dayOfYear - daysInMonth year month)

/-- The year of a day and its place in that year, both counted from zero: a cycle has 400 years,
then a century 100, then a leap period four. -/
def yearAndDay (daysPast : Nat) : Nat × Nat :=
  let cycles := daysPast / 146097
  let inCycle := daysPast % 146097
  let centuries := min (inCycle / 36524) 3
  let inCentury := inCycle - centuries * 36524
  let periods := inCentury / 1461
  let inPeriod := inCentury % 1461
  let years := min (inPeriod / 365) 3
  (cycles * 400 + centuries * 100 + periods * 4 + years, inPeriod - years * 365)

/-- The date with this number, if the years hold it. -/
def ofNumber? (n : Nat) : Option Date :=
  if n = 0 then none
  else
    let (yearsPast, dayOfYear) := yearAndDay (n - 1)
    let (month, day) := monthAndDay (yearsPast + 1) 11 1 dayOfYear
    ofParts? (yearsPast + 1) month day

/-- The date so many days later, or earlier when the number is negative. -/
def addDays? (d : Date) (days : Int) : Option Date :=
  let n := (d.number : Int) + days
  if n < 1 then none else ofNumber? n.toNat

/-- The number of days from the first date to the second. -/
def daysUntil (d e : Date) : Int :=
  (e.number : Int) - d.number

/-! ## Weekdays and text -/

/-- The day of the week, Monday being 0. -/
def weekday (d : Date) : Nat :=
  (d.number + 6) % 7

/-- The number with zeros before it up to the given width. -/
def padded (width n : Nat) : String :=
  let digits := n.repr.toList
  String.ofList (List.replicate (width - digits.length) '0' ++ digits)

/-- Year, month and day, as in `2026-10-19`. -/
def text (d : Date) : String :=
  padded 4 d.year ++ "-" ++ padded 2 d.month ++ "-" ++ padded 2 d.day

/-- The short English name of the weekday. -/
def weekdayName (d : Date) : String :=
  match d.weekday with
  | 0 => "Mon"
  | 1 => "Tue"
  | 2 => "Wed"
  | 3 => "Thu"
  | 4 => "Fri"
  | 5 => "Sat"
  | _ => "Sun"

/-- Weekday, day and month, as in `Mon 19/10`. -/
def shortText (d : Date) : String :=
  d.weekdayName ++ " " ++ padded 2 d.day ++ "/" ++ padded 2 d.month

end Date

end BukuKas.Calendar
