import BukuKas.Period
import BukuKas.Proofs.Calendar.Span

/-!
# Sound periods

A period whose last day is not before its first one has at least one day, and on every date some of
its days have passed and some are left, never less than none and never more than all.  On a day of
the period the two overlap in that day; before the period one day counts as passed already.

## Main results

* `daysLeft_eq`, `elapsed_eq` : the days that are left and the days that have passed, counted.
* `Sound.daysLeft_mem`, `Sound.elapsed_mem` : their bounds.
-/

namespace BukuKas.Period

open Calendar (Date)

variable {p : Period}

/-! ## Counting the days of a period -/

/-- The dates of the period. -/
def dates (p : Period) : List Date := Date.span p.start p.stop

theorem mem_dates {d : Date} : d ∈ p.dates ↔ p.start ≤ d ∧ d ≤ p.stop := Date.mem_span_iff

theorem totalDays_eq (h : p.start ≤ p.stop) : p.totalDays = p.dates.length := by
  rw [Date.le_iff] at h
  rw [dates, Date.length_span, totalDays, Date.daysUntil]
  omega

/-- The days that are left are the dates of the period from today on. -/
theorem daysLeft_eq (h : p.start ≤ p.stop) (today : Date) :
    p.daysLeft today = p.dates.countP fun d => decide (today ≤ d) := by
  rw [dates, Date.countP_span_from]
  rw [Date.le_iff] at h
  unfold daysLeft totalDays Date.daysUntil
  simp only [Date.lt_iff]
  split
  · omega
  · split <;> omega

/-- The days that have passed are the dates of the period up to today, and one before the period. -/
theorem elapsed_eq (h : p.start ≤ p.stop) (today : Date) :
    p.elapsed today = (max 1 (p.dates.countP fun d => decide (d ≤ today)) : Nat) := by
  have hleft := daysLeft_eq h today
  have htotal := totalDays_eq h
  rw [dates, Date.countP_span_from] at hleft
  rw [dates, Date.length_span] at htotal
  rw [dates, Date.countP_span_upTo, elapsed, hleft, htotal]
  rw [Date.le_iff] at h
  omega

theorem totalDays_pos (h : p.start ≤ p.stop) : 1 ≤ p.totalDays := by
  rw [Date.le_iff] at h
  unfold totalDays Date.daysUntil
  omega

theorem daysLeft_nonneg (h : p.start ≤ p.stop) (today : Date) : 0 ≤ p.daysLeft today := by
  rw [daysLeft_eq h]
  exact Int.natCast_nonneg _

theorem daysLeft_le (h : p.start ≤ p.stop) (today : Date) : p.daysLeft today ≤ p.totalDays := by
  rw [daysLeft_eq h, totalDays_eq h]
  exact Int.ofNat_le.mpr List.countP_le_length

theorem one_le_elapsed (h : p.start ≤ p.stop) (today : Date) : 1 ≤ p.elapsed today := by
  rw [elapsed_eq h]
  omega

theorem elapsed_le (p : Period) (today : Date) : p.elapsed today ≤ p.totalDays :=
  Int.min_le_right _ _

/-- Later fewer days are left. -/
theorem daysLeft_anti (h : p.start ≤ p.stop) {today later : Date} (hle : today ≤ later) :
    p.daysLeft later ≤ p.daysLeft today := by
  rw [daysLeft_eq h, daysLeft_eq h, dates, Date.countP_span_from, Date.countP_span_from]
  rw [Date.le_iff] at hle
  omega

/-- Each day of the period is one day less that is left on the next one. -/
theorem daysLeft_next (h : p.start ≤ p.stop) {today next : Date} (hstart : p.start ≤ today)
    (hstop : today ≤ p.stop) (hnext : today.addDays? 1 = some next) :
    p.daysLeft today = p.daysLeft next + 1 := by
  rw [daysLeft_eq h, daysLeft_eq h, dates, Date.countP_span_from, Date.countP_span_from]
  rw [Date.addDays?_eq_some_iff] at hnext
  rw [Date.le_iff] at hstart hstop
  omega

/-- A day of the period has passed and is left at once. -/
theorem elapsed_add_daysLeft (h : p.start ≤ p.stop) {today : Date} (hstart : p.start ≤ today)
    (hstop : today ≤ p.stop) : p.elapsed today + p.daysLeft today = p.totalDays + 1 := by
  rw [elapsed_eq h, daysLeft_eq h, totalDays_eq h, dates, Date.countP_span_from,
    Date.countP_span_upTo, Date.length_span]
  rw [Date.le_iff] at hstart hstop
  omega

/-! ## Sound periods -/

/-- A period that runs forward, with a budget of two decimals. -/
structure Sound (p : Period) : Prop where
  ordered : p.start ≤ p.stop
  budget : ∃ n : Int, p.budget = .ofRatio n 100
  finite : p.budget.isFinite = true

/-- A sound period has at least one day and at most all days of the calendar. -/
theorem Sound.totalDays_mem (h : p.Sound) : 1 ≤ p.totalDays ∧ p.totalDays ≤ Date.lastNumber := by
  have hstop := Date.number_le_lastNumber p.stop
  have hstart := Date.one_le_number p.start
  refine ⟨totalDays_pos h.ordered, ?_⟩
  unfold totalDays Date.daysUntil
  omega

theorem Sound.daysLeft_mem (h : p.Sound) (today : Date) :
    0 ≤ p.daysLeft today ∧ p.daysLeft today ≤ p.totalDays :=
  ⟨daysLeft_nonneg h.ordered today, daysLeft_le h.ordered today⟩

theorem Sound.elapsed_mem (h : p.Sound) (today : Date) :
    1 ≤ p.elapsed today ∧ p.elapsed today ≤ p.totalDays :=
  ⟨one_le_elapsed h.ordered today, p.elapsed_le today⟩

end BukuKas.Period
