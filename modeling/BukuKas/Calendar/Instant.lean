import BukuKas.Calendar.Date

/-!
# Instants

An instant is a number of seconds, counted from the beginning of 1970 in universal time; fractions
of a second never decide a date and are dropped.  A clock with an offset from universal time shows
each instant as a second of a date.

## Main results

* `Instant.dateAt?_eq_dateAt?_zero` : an offset is the same as that much more time.
-/

namespace BukuKas.Calendar

/-- A moment, in seconds since the beginning of 1970 in universal time. -/
structure Instant where
  /-- The seconds since that beginning. -/
  seconds : Int
  deriving DecidableEq

/-- The number of the day 1970-01-01. -/
def epochNumber : Int := 719163

/-- The number of seconds of a day. -/
def secondsPerDay : Int := 86400

namespace Instant

/-- The instant at which a clock with the given offset shows the given second of a day. -/
def ofReading (date : Date) (secondOfDay : Nat) (offset : Int) : Instant :=
  ⟨((date.number : Int) - epochNumber) * secondsPerDay + secondOfDay - offset⟩

/-- The date that a clock with the given offset shows, when it lies in the years of dates. -/
def dateAt? (i : Instant) (offset : Int) : Option Date :=
  let n := (i.seconds + offset) / secondsPerDay + epochNumber
  if n < 1 then none else Date.ofNumber? n.toNat

/-- An offset is the same as that much more time. -/
theorem dateAt?_eq_dateAt?_zero (i : Instant) (offset : Int) :
    i.dateAt? offset = dateAt? ⟨i.seconds + offset⟩ 0 := by
  simp [dateAt?]

end Instant

end BukuKas.Calendar
