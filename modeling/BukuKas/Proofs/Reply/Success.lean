import BukuKas.Proofs.Calendar.Count
import BukuKas.Proofs.Ledger.Sound
import BukuKas.Proofs.Score.Defined
import BukuKas.Reply.Answer

/-!
# Answers succeed

On a sound ledger no answer fails by itself.  What an answer computes from what the ledger says is
always there: days before today, because there are enough of them; points and grades, because
amounts and periods are sound; the percentage of a budget, because sums are bounded.  The last is
needed for one answer only, and that one records nothing.

## Main results

* `succeeds_answer` : all answers succeed on what their intent may rely on.
* `length_weekFrom` : no day of a week is missing.
-/

namespace BukuKas

open Calendar (Date)
open Number (Binary64)

/-! ## Days before today -/

namespace Calendar.Date

/-- The first date for which a month and a week before it are in the calendar. -/
def earliest : Date := ⟨1, 2, 1, by decide⟩

theorem number_earliest : earliest.number = 32 := by decide

/-- The days of the month before today are in the calendar. -/
theorem exists_earlier {d : Date} (h : earliest ≤ d) (days : Int) (hlow : -31 ≤ days)
    (hhigh : days ≤ 0) :
    ∃ e, d.addDays? days = some e ∧ (e.number : Int) = d.number + days := by
  have hfirst := number_le_of_le h
  rw [number_earliest] at hfirst
  have hlast := d.number_le_lastNumber
  exact exists_addDays? d days (by omega) (by omega)

theorem earliest_le_firstOfMonth {d : Date} (h : earliest ≤ d) : earliest ≤ d.firstOfMonth := by
  have hd : before d ⟨1, 2, 1, by decide⟩ = false := h
  have hday : d.firstOfMonth.day = 1 := firstOfMonth_day d
  have hyear : d.firstOfMonth.year = d.year := rfl
  have hmonth : d.firstOfMonth.month = d.month := rfl
  show before d.firstOfMonth ⟨1, 2, 1, by decide⟩ = false
  simp only [before, Bool.or_eq_false_iff, Bool.and_eq_false_iff, decide_eq_false_iff_not,
    beq_eq_false_iff_ne] at hd ⊢
  omega

end Calendar.Date

namespace Reply

/-- None of the seven days up to today is missing. -/
theorem length_weekFrom {today start : Date} (h : today.addDays? (-6) = some start)
    (htoday : Date.earliest ≤ today) : (weekFrom start).length = 7 := by
  obtain ⟨found, hfound, hnumber⟩ := Date.exists_earlier htoday (-6) (by decide) (by decide)
  have hsame : found = start := by
    rw [h] at hfound
    injection hfound with hfound
    exact hfound.symm
  subst hsame
  have hlast := today.number_le_lastNumber
  have hfirst := found.one_le_number
  unfold weekFrom
  rw [List.length_filterMap_eq_countP, List.countP_eq_length.mpr, List.length_range]
  intro n hn
  have hn7 : n < 7 := List.mem_range.mp hn
  obtain ⟨day, hday, -⟩ := Date.exists_addDays? found n (by omega) (by omega)
  rw [hday]
  rfl

theorem exists_monthWindows {today : Date} (h : Date.earliest ≤ today) :
    ∃ w, monthWindows? today = some w := by
  obtain ⟨stop, hstop, -⟩ := Date.exists_earlier (Date.earliest_le_firstOfMonth h) (-1)
    (by decide) (by decide)
  unfold monthWindows?
  dsimp only
  rw [hstop]
  exact ⟨_, rfl⟩

/-! ## What several answers share -/

section Shared

variable {promise : Promise}

theorem succeeds_shift {d : Date} (h : Date.earliest ≤ d) {days : Int} (hlow : -31 ≤ days)
    (hhigh : days ≤ 0) : (shift d days).Succeeds promise fun _ => True := by
  obtain ⟨e, he, -⟩ := Date.exists_earlier h days hlow hhigh
  unfold shift
  rw [he]
  trivial

/-- The status of the budget is that of a sound period, with a sum as it is promised. -/
theorem succeeds_budgetStatus (promise : Promise) (user : Int)
    (hperiod : promise.answers (.activePeriod user) ∧
      ∀ period, promise.grants (.activePeriod user) period → ∀ p :
      Period, period = some p → p.Sound)
    (hsum : ∀ start stop, promise.answers (.sumExpenses user start stop)) :
    (budgetStatus user).Succeeds promise fun status => ∀ st, status = some st →
      st.period.Sound ∧ ∃ start stop, promise.grants (.sumExpenses user start stop) st.spent := by
  refine Work.succeeds_bind (Work.succeeds_query hperiod.1) ?_
  intro period hgranted
  have hsound := hperiod.2 period hgranted
  cases (period : Option Period) with
  | none =>
      intro st hst
      exact nomatch hst
  | some p =>
      refine Work.succeeds_bind (Work.succeeds_query (hsum p.start p.stop)) ?_
      intro spent hspent st hst
      injection hst with hst
      subst hst
      exact ⟨hsound p rfl, _, _, hspent⟩

theorem sound_budgetStatus (user : Int) :
    (budgetStatus user).Succeeds .sound fun status => ∀ st, status = some st → st.period.Sound :=
  Work.succeeds_mono (succeeds_budgetStatus .sound user ⟨trivial, fun _ h => h⟩
    fun _ _ => trivial) fun _ h st hst => (h st hst).1

theorem succeeds_alertLines (threshold : Binary64) (chat : Chat) :
    (alertLines threshold chat).Succeeds .sound fun _ => True := by
  unfold alertLines
  split
  · apply Work.succeeds_bind (sound_budgetStatus chat.user)
    intro status _
    split <;> trivial
  · trivial

theorem exists_totalPoints {amounts : List Binary64} (h : Moderate amounts) :
    ∃ points, Score.totalPoints amounts = .ok points :=
  Score.exists_totalPoints h (by decide +kernel)

theorem succeeds_experienceLine (user earned : Int) :
    (experienceLine user earned).Succeeds .sound fun _ => True := by
  refine Work.succeeds_bind (Work.succeeds_query trivial) ?_
  intro amounts hamounts
  exact Work.succeeds_bind (Work.succeeds_ofExcept (exists_totalPoints hamounts)) fun _ _ => trivial

end Shared

/-! ## Questions -/

section Questions

variable {o : Occasion} (chat : Chat)

/-- The spent share of a sound budget is a number. -/
theorem exists_wholePercent {status : BudgetStatus} (hperiod : status.period.Sound)
    (hspent : status.spent.Within (2 * sumLimit + 1)) :
    ∃ percent, wholePercent (status.usedRatio * 100) = .ok percent := by
  have hratio : status.usedRatio.Within (2 * ((2 * sumLimit + 1) * 200) + 1) := by
    unfold BudgetStatus.usedRatio BudgetStatus.budget
    split
    · exact Binary64.within_mono (Binary64.within_ofNat (n := 0) (by decide +kernel))
        (by decide +kernel)
    · rename_i hbudget
      obtain ⟨n, hn⟩ := hperiod.budget
      have hfinite := hperiod.finite
      rw [hn] at hbudget hfinite ⊢
      exact Binary64.within_div hspent
        (Binary64.atLeastPart_ofRatio (Binary64.pos_of_not_le_zero hbudget)
        (by decide) (by decide +kernel) hfinite) (by decide +kernel)
  have hpercent : (status.usedRatio * 100).Within _ :=
    Binary64.within_mul hratio (Binary64.within_ofNat (n := 100) (by decide +kernel))
      (by decide +kernel)
  obtain ⟨percent, hround⟩ := Binary64.round?_of_within hpercent
  unfold wholePercent
  rw [hround]
  exact ⟨percent, rfl⟩

/-- What is left of the budget needs bounded sums. -/
theorem succeeds_remaining : (remaining o chat).Succeeds .modest fun _ => True := by
  apply Work.succeeds_bind (succeeds_budgetStatus .modest chat.user
    ⟨⟨trivial, fun _ _ h => nomatch h⟩, fun _ h => h⟩ fun _ _ => ⟨trivial, fun _ _ h => nomatch h⟩)
  intro status hstatus
  cases status with
  | none => trivial
  | some status =>
      obtain ⟨hperiod, _, _, hspent⟩ := hstatus status rfl
      apply Work.succeeds_bind (Work.succeeds_ofExcept (exists_wholePercent hperiod hspent))
      exact fun _ _ => trivial

theorem succeeds_spending : (spending o chat).Succeeds .sound fun _ => True := by
  refine Work.succeeds_bind (Work.succeeds_query trivial) ?_
  intro period _
  exact Work.succeeds_bind (Work.succeeds_query trivial) fun _ _ => trivial

theorem succeeds_today : (today o chat).Succeeds .sound fun _ => True :=
  Work.succeeds_bind (Work.succeeds_query trivial) fun _ _ => trivial

theorem succeeds_weekly (h : Date.earliest ≤ o.today) :
    (weekly o chat).Succeeds .sound fun _ => True := by
  apply Work.succeeds_bind (succeeds_shift h (by decide) (by decide))
  intro start _
  refine Work.succeeds_bind (Work.succeeds_query trivial) ?_
  intro daily _
  exact Work.succeeds_bind (Work.succeeds_query trivial) fun _ _ => trivial

theorem succeeds_comparison (h : Date.earliest ≤ o.today) :
    (comparison o chat).Succeeds .sound fun _ => True := by
  obtain ⟨w, hw⟩ := exists_monthWindows h
  unfold comparison
  rw [hw]
  apply Work.succeeds_bind (Work.succeeds_ofExcept ⟨w, rfl⟩)
  intro windows _
  refine Work.succeeds_bind (Work.succeeds_query trivial) ?_
  intro now _
  refine Work.succeeds_bind (Work.succeeds_query trivial) ?_
  intro before _
  exact Work.succeeds_bind (Work.succeeds_query trivial) fun _ _ => trivial

theorem succeeds_prediction : (prediction o chat).Succeeds .sound fun _ => True := by
  apply Work.succeeds_bind (sound_budgetStatus chat.user)
  intro status hstatus
  cases status with
  | none => trivial
  | some status =>
      obtain ⟨helapsed, -⟩ := (hstatus status rfl).elapsed_mem o.today
      dsimp only
      rw [if_neg (by omega)]
      trivial

/-- The lines about the budget of a sound period can be written. -/
theorem exists_recapBudget (spent : Binary64) {period : Option Period}
    (h : ∀ p : Period, period = some p → p.Sound) :
    ∃ lines, recapBudget o spent period = .ok lines := by
  cases period with
  | none => exact ⟨[], rfl⟩
  | some p =>
      have hsound := h p rfl
      unfold recapBudget
      dsimp only
      split
      · rename_i hbudget
        obtain ⟨health, hhealth⟩ :=
          Score.Health.exists_ofBudget spent (Binary64.not_le_of_lt hbudget)
          hsound.totalDays_mem.1 (hsound.daysLeft_mem o.today)
        rw [hhealth]
        exact ⟨_, rfl⟩
      · exact ⟨_, rfl⟩

theorem succeeds_recap : (recap o chat).Succeeds .sound fun _ => True := by
  refine Work.succeeds_bind (Work.succeeds_query trivial) ?_
  intro period hperiod
  refine Work.succeeds_bind (Work.succeeds_query trivial) ?_
  intro rows _
  refine Work.succeeds_bind (Work.succeeds_query trivial) ?_
  intro amounts hamounts
  apply Work.succeeds_bind (Work.succeeds_ofExcept (exists_totalPoints hamounts))
  intro earned _
  exact Work.succeeds_bind (Work.succeeds_ofExcept (exists_recapBudget _ hperiod)) fun _ _ =>
    trivial

theorem succeeds_health : (health o chat).Succeeds .sound fun _ => True := by
  apply Work.succeeds_bind (sound_budgetStatus chat.user)
  intro status hstatus
  cases status with
  | none => trivial
  | some status =>
      have hsound := hstatus status rfl
      dsimp only
      split
      · trivial
      · rename_i hbudget
        have hgrade := Score.Health.exists_ofBudget status.spent hbudget hsound.totalDays_mem.1
          (hsound.daysLeft_mem o.today)
        exact Work.succeeds_bind (Work.succeeds_ofExcept hgrade) fun _ _ => trivial

theorem succeeds_mood (h : Date.earliest ≤ o.today) :
    (mood o chat).Succeeds .sound fun _ => True := by
  have hmood : (moodOf chat.user o.today).Succeeds .sound fun _ => True := by
    refine Work.succeeds_bind (Work.succeeds_query trivial) ?_
    intro spent _
    apply Work.succeeds_bind (succeeds_shift h (by decide) (by decide))
    intro start _
    apply Work.succeeds_bind (succeeds_shift h (by decide) (by decide))
    intro stop _
    exact Work.succeeds_bind (Work.succeeds_query trivial) fun _ _ => trivial
  exact Work.succeeds_bind hmood fun _ _ => trivial

end Questions

/-! ## Recordings, reminders and the alert -/

section Changes

variable {o : Occasion} (chat : Chat)

theorem exists_points {e : Entry} (h : e.Keepable) : ∃ points, Score.points e.amount = .ok points :=
  Score.exists_points h.within (by decide +kernel)

theorem succeeds_add {e : Entry} (h : e.Keepable) :
    (add o chat e).Succeeds .sound fun _ => True := by
  refine Work.succeeds_bind (Work.succeeds_query h) ?_
  intro recording _
  apply Work.succeeds_bind (Work.succeeds_put _)
  intro _ _
  apply Work.succeeds_bind (Work.succeeds_ofExcept (exists_points h))
  intro earned _
  apply Work.succeeds_bind (succeeds_experienceLine chat.user earned)
  intro experience _
  exact Work.succeeds_bind (succeeds_alertLines o.threshold _) fun _ _ => trivial

theorem succeeds_addAll (earned : Int) {es : List Entry} (h : ∀ e ∈ es, e.Keepable) :
    (addAll chat earned es).Succeeds .sound fun _ => True := by
  induction es generalizing chat earned with
  | nil => trivial
  | cons e es ih =>
      have hfirst := h e List.mem_cons_self
      refine Work.succeeds_bind (Work.succeeds_query hfirst) ?_
      intro recording _
      apply Work.succeeds_bind (Work.succeeds_put _)
      intro _ _
      apply Work.succeeds_bind (Work.succeeds_ofExcept (exists_points hfirst))
      intro more _
      exact ih _ (earned + more) fun other hother => h other (List.mem_cons_of_mem e hother)

theorem succeeds_addMany {es : List Entry} (h : ∀ e ∈ es, e.Keepable) :
    (addMany o chat es).Succeeds .sound fun _ => True := by
  apply Work.succeeds_bind (succeeds_addAll chat 0 h)
  intro recorded _
  apply Work.succeeds_bind (succeeds_experienceLine _ _)
  intro experience _
  exact Work.succeeds_bind (succeeds_alertLines o.threshold _) fun _ _ => trivial

theorem succeeds_undo : (undo chat).Succeeds .sound fun _ => True := by
  unfold undo
  split
  · trivial
  · refine Work.succeeds_bind (Work.succeeds_query trivial) ?_
    intro removed _
    apply Work.succeeds_bind (Work.succeeds_put _)
    intro _ _
    split <;> trivial

theorem succeeds_delete (index : Int) : (delete o chat index).Succeeds .sound fun _ => True := by
  refine Work.succeeds_bind (Work.succeeds_query trivial) ?_
  intro rows _
  split
  · trivial
  · split
    · trivial
    · refine Work.succeeds_bind (Work.succeeds_query trivial) ?_
      intro _ _
      split <;> trivial

theorem succeeds_deleteReminder (index : Int) :
    (deleteReminder chat index).Succeeds .sound fun _ => True := by
  unfold deleteReminder
  split
  · trivial
  · split <;> trivial

end Changes

/-! ## All answers -/

end Reply

/-- What the answer to an intent relies on. -/
def Intent.promise : Intent → Promise
  | .remaining => .modest
  | _ => .sound

/-- Every answer succeeds on what it relies on, where entries are keepable and there are days before
today. -/
theorem Reply.succeeds_answer {o : Occasion} (chat : Chat) {intent : Intent}
    (htoday : Date.earliest ≤ o.today) (hentries : ∀ e ∈ intent.entries, e.Keepable) :
    (answer o (some chat) intent).Succeeds intent.promise fun _ => True := by
  cases intent with
  | add e => exact succeeds_add chat (hentries e (List.mem_singleton.mpr rfl))
  | addMany es => exact succeeds_addMany chat hentries
  | remaining => exact succeeds_remaining chat
  | spending => exact succeeds_spending chat
  | today => exact succeeds_today chat
  | weekly => exact succeeds_weekly chat htoday
  | undo => exact succeeds_undo chat
  | delete index => exact succeeds_delete chat index
  | comparison => exact succeeds_comparison chat htoday
  | prediction => exact succeeds_prediction chat
  | recap => exact succeeds_recap chat
  | health => exact succeeds_health chat
  | mood => exact succeeds_mood chat htoday
  | deleteReminder index => exact succeeds_deleteReminder chat index
  | categories | listReminders | addReminder _ _ | challenge | tip | setAlert _ | help
  | unknown _ =>
      trivial

end BukuKas
