import BukuKas.Proofs.Message.Asked
import BukuKas.Proofs.Message.Numbered
import BukuKas.Proofs.Period
import BukuKas.Proofs.Reply.Warning

/-!
# Where a period is heading

The prediction divides what was spent in the active period by the days that have passed.  These days
and those that are left are computed from three cases and two limits; both come to a count of the
dates of the period, those up to today and those from today on, so that they meet in today and never
run apart.

## Main results

* `Reply.run_prediction` : what the prediction shows.
* `days_of_period` : the days that are left and the days that have passed.
-/

namespace BukuKas

open Calendar (Date)
open Number (Binary64)

namespace Reply

/-- The prediction shows what was spent in the active period, in how many days, and how much on
each. -/
theorem run_prediction (phone : String) (d : Desk) (o : Occasion) (chat : Chat) {p : Period}
    (h : p.start ≤ p.stop)
    (hperiod : Ledger.activePeriod d.draft.ledger.periods chat.user = some p) :
    let spent := Ledger.sumExpenses d.draft.rows chat.user p.start p.stop
    ∃ reply after, (prediction o chat).run .none phone d = (.ok reply, after) ∧ reply.Shows
      ["Terpakai: " ++ Money.text spent ++ " dalam " ++ toString (p.elapsed o.today) ++ " hari",
        "Rata-rata/hari: " ++ Money.text (spent / Binary64.ofInt (p.elapsed o.today))] := by
  intro spent
  obtain ⟨mid, hstatus⟩ := run_budgetStatus chat.user phone d
  rw [Draft.budgetStatus, hperiod, Option.map_some] at hstatus
  have hpassed : p.elapsed o.today ≠ 0 := by
    have := p.one_le_elapsed h o.today
    omega
  unfold prediction
  rw [Work.run_bind_of_ok hstatus]
  dsimp only
  rw [if_neg hpassed]
  exact ⟨_, _, rfl, ["🔮 *Prediksi Pengeluaran*", ""], _, rfl⟩

end Reply

/-- On every date the days that are left of a period are its dates from today on, and the days that
have passed, by which the prediction divides, are its dates up to today, or one before the period.
So both lie between none, or one, and all days; from each day of the period to the next one day less
is left; and on a day of the period both together count that day twice. -/
theorem days_of_period {p : Period} (h : p.start ≤ p.stop) :
    (p.dates.Nodup ∧ (∀ d, d ∈ p.dates ↔ p.start ≤ d ∧ d ≤ p.stop) ∧ p.totalDays = p.dates.length) ∧
    (∀ today, p.daysLeft today = p.dates.countP (fun d => decide (today ≤ d)) ∧
      0 ≤ p.daysLeft today ∧ p.daysLeft today ≤ p.totalDays) ∧
    (∀ today later, today ≤ later → p.daysLeft later ≤ p.daysLeft today) ∧
    (∀ today next, p.start ≤ today → today ≤ p.stop → today.addDays? 1 = some next →
      p.daysLeft today = p.daysLeft next + 1) ∧
    (∀ today, p.elapsed today = (max 1 (p.dates.countP fun d => decide (d ≤ today)) : Nat) ∧
      1 ≤ p.elapsed today ∧ p.elapsed today ≤ p.totalDays) ∧
    (∀ today, p.start ≤ today → today ≤ p.stop →
      p.elapsed today + p.daysLeft today = p.totalDays + 1) ∧
    ∀ (s : Service) (c : Circumstances) (m : Message) (phone word : String) (chat : Chat)
      (today : Date),
      s.chats.get? phone = some chat → Ledger.activePeriod s.ledger.periods chat.user = some p →
      m.Asks c today phone word → (word, .prediction) ∈ Command.wordCommands →
      ∃ reply, (m.handle c .none s).1 = .ok (.ofReply reply) ∧
        let spent := Ledger.sumExpenses s.ledger.rows chat.user p.start p.stop
        reply.Shows
          ["Terpakai: " ++ Money.text spent ++ " dalam " ++ toString (p.elapsed today) ++ " hari",
            "Rata-rata/hari: " ++ Money.text (spent / Binary64.ofInt (p.elapsed today))] := by
  refine ⟨⟨Date.nodup_span _ _, fun d => Period.mem_dates, p.totalDays_eq h⟩, fun today => ?_,
    fun _ _ => p.daysLeft_anti h, fun _ _ => p.daysLeft_next h, fun today => ?_,
    fun _ => p.elapsed_add_daysLeft h, ?_⟩
  · exact ⟨p.daysLeft_eq h today, p.daysLeft_nonneg h today, p.daysLeft_le h today⟩
  · exact ⟨p.elapsed_eq h today, p.one_le_elapsed h today, p.elapsed_le today⟩
  · intro s c m phone word chat today hchat hperiod hasks hword
    obtain ⟨reply, after, hrun, hshows⟩ :=
      Reply.run_prediction phone s.desk (c.occasion today) chat h hperiod
    exact ⟨reply, hasks.answered hword hchat hrun, hshows⟩

/-- On the leap day, the second of three days, two days have passed and two are left, and the
prediction divides by two. -/
theorem days_of_period_of_leap_day :
    let today : Date := ⟨2028, 2, 29, by decide⟩
    let p : Period := ⟨1, .ofRatio 3000000 100, ⟨2028, 2, 28, by decide⟩, ⟨2028, 3, 1, by decide⟩⟩
    let chat : Chat := { user := 1, email := "budi@gmail.com", name := "budi" }
    let s : Service := {
      ledger := {
        periods := [⟨1, true, p⟩]
        rows := [⟨1, 1, "Kopi", .hundredths 2500000, "Makanan", today, .expense, 1⟩]
        nextId := 2 }
      chats := Roster.empty.set "62" chat }
    let c : Circumstances := { settings := {}, now := ⟨1835406000⟩ }
    let m : Message := { sender := "62@c.us", text := some " !Prediksi" }
    p.elapsed today = 2 ∧ p.daysLeft today = 2 ∧
      ∃ reply, (m.handle c .none s).1 = .ok (.ofReply reply) ∧ reply.Shows
        ["Terpakai: " ++ Money.text 25000 ++ " dalam " ++ toString (2 : Int) ++ " hari",
          "Rata-rata/hari: " ++ Money.text (25000 / Binary64.ofInt 2)] := by
  intro today p chat s c m
  obtain ⟨-, hleft, -, -, hpassed, -, hreply⟩ := days_of_period (p := p) (by decide)
  have htwo : p.elapsed today = 2 := (hpassed today).1.trans (by decide +kernel)
  have hspent : Ledger.sumExpenses s.ledger.rows chat.user p.start p.stop = 25000 := by
    decide +kernel
  have hasks : m.Asks c today "62" "!prediksi" :=
    ⟨by decide +kernel, by decide +kernel, by decide +kernel, by decide +kernel⟩
  obtain ⟨reply, hhandle, hshows⟩ :=
    hreply s c m "62" "!prediksi" chat today rfl (by decide +kernel) hasks (by decide +kernel)
  dsimp only at hshows
  rw [hspent, htwo] at hshows
  exact ⟨htwo, (hleft today).1.trans (by decide +kernel), reply, hhandle, hshows⟩

end BukuKas
