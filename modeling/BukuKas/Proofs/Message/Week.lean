import BukuKas.Proofs.Ledger.Order
import BukuKas.Proofs.Message.Asked

/-!
# The last seven days

The summary of a week goes through seven dates that it computes from the first one, and looks each
of them up in the sums of the days, which the ledger groups on its own.  The dates are those of the
span that the ledger was asked for, so no sum is missed and none is shown twice; a date without a
sum shows none, and nothing is what it adds to the total.

## Main results

* `Reply.weekFrom_eq` : the dates that are gone through.
* `Reply.run_weekly` : what the summary shows.
* `week_of_summary` : the summary covers its window exactly.
-/

namespace BukuKas

open Calendar (Date)
open Number (Binary64)
open Ledger (expenses spent)

namespace Reply

variable {rows : List Row} {user : Int} {start today : Date}

/-- The dates of a week are those of the span that begins six days before. -/
theorem weekFrom_eq (h : today.addDays? (-6) = some start) :
    weekFrom start = Date.span start today := by
  have hnumber := Date.addDays?_eq_some_iff.mp h
  have hlength : today.number + 1 - start.number = 7 := by omega
  have hdays : ∀ n : Nat, start.addDays? n = Date.ofNumber? (start.number + n) := by
    intro n
    have hfirst := start.one_le_number
    unfold Date.addDays?
    dsimp only
    rw [if_neg (by omega), ← Int.natCast_add, Int.toNat_natCast]
  rw [weekFrom, Date.span, hlength, List.range'_eq_map_range, List.filterMap_map]
  exact List.filterMap_congr fun n _ => hdays n

/-- A day without rows has no sum. -/
theorem spent_of_isEmpty {d : Date} (h : (expenses rows user d d).isEmpty = true) :
    (spent rows user d d).toDouble = 0 := by
  rw [spent, List.isEmpty_iff.mp h]
  exact Cash.toDouble_zero

/-- The sum that is looked up for a day of a span is that of its rows. -/
theorem sumOn_dailyTotals {d : Date} (hd : d ∈ Date.span start today) :
    sumOn (Ledger.dailyTotals rows user start today) d = (spent rows user d d).toDouble := by
  rw [Ledger.dailyTotals_eq, sumOn, List.find?_map]
  generalize hkept : (Date.span start today).filter (fun d => !(expenses rows user d d).isEmpty) =
    kept
  cases hfind : kept.find? ((fun sum : Date × Binary64 => sum.1 == d) ∘
      fun d => (d, (spent rows user d d).toDouble)) with
  | some e =>
      have hsame := List.find?_some hfind
      obtain rfl : e = d := eq_of_beq hsame
      rfl
  | none =>
      refine (spent_of_isEmpty ?_).symm
      have hnot := List.find?_eq_none.mp hfind
      rw [← hkept] at hnot
      by_contra hrows
      exact hnot d (List.mem_filter.mpr ⟨hd, by simpa using hrows⟩) (beq_self_eq_true d)

/-- The sums of the days of a span, added up, are those of all its dates. -/
theorem sum_dailyTotals (rows : List Row) (user : Int) (start stop : Date) :
    Binary64.sum ((Ledger.dailyTotals rows user start stop).map Prod.snd) =
      Binary64.sum ((Date.span start stop).map fun d => (spent rows user d d).toDouble) := by
  rw [Ledger.dailyTotals_eq, List.map_map]
  exact Binary64.sum_filter fun d _ hempty => spent_of_isEmpty (by simpa using hempty)

/-- The largest of sums of which none is larger than the first. -/
theorem largest?_cons {first : String × Binary64} {rest : Report.Tally}
    (h : ∀ sum ∈ rest, sum.2 ≤ first.2) :
    largest? (first :: rest) = some first := by
  rw [largest?]
  congr 1
  induction rest with
  | nil => rfl
  | cons sum rest ih =>
      have hnot : ¬first.2 < sum.2 :=
        fun hlt => Binary64.not_le_of_lt hlt (h sum List.mem_cons_self)
      rw [List.foldl_cons, if_neg hnot]
      exact ih fun other hother => h other (List.mem_cons_of_mem sum hother)

/-- The lines of the summary of some days: one for each day, what they come to, and the largest
category. -/
def weekLines (start today : Date) (days : List Date) (shown : Date → Binary64)
    (largest : List String) :
    List String :=
  let total := Binary64.sum (days.map shown)
  ["📆 *Ringkasan 7 Hari Terakhir*", spanText start today, ""] ++
    days.map (fun d => "• " ++ d.shortText ++ ": " ++ Money.text (shown d)) ++
    ["", divider, "*Total: " ++ Money.text total ++ "*",
      "Rata-rata/hari: " ++ Money.text (total / 7)] ++
    largest

/-- The line of the largest category names the one on which most was spent, and is there when
anything was spent. -/
inductive LargestLine (rows : List Row) (user : Int) (start stop : Date) : List String → Prop
  | nothing (h : expenses rows user start stop = []) : LargestLine rows user start stop []
  | most {category : String} (h : Ledger.MostSpent rows user start stop category) :
      LargestLine rows user start stop ["Terbesar: " ++ category ++ " (" ++
        Money.text (Ledger.spentUnder rows user start stop category).toDouble ++ ")"]

theorem largestLine_of_totals (rows : List Row) (user : Int) (start stop : Date) :
    LargestLine rows user start stop (match largest? (Ledger.categoryTotals rows user start stop)
      with
      | some (category, sum) => ["Terbesar: " ++ category ++ " (" ++ Money.text sum ++ ")"]
      | none => []) := by
  rcases Ledger.categoryTotals_cases rows user start stop
    with ⟨hnone, htotals⟩ | ⟨category, rest, hmost, htotals, hrest⟩
  · rw [htotals]
    exact .nothing hnone
  · rw [htotals, largest?_cons hrest]
    exact .most hmost

/-- The summary shows the dates of the last seven days, each with the sum of its rows. -/
theorem run_weekly (phone : String) (d : Desk) (o : Occasion) (chat : Chat)
    (h : o.today.addDays? (-6) = some start) :
    ∃ largest, LargestLine d.draft.rows chat.user start o.today largest ∧
      ∃ after, (weekly o chat).run .none phone d =
        (.ok (ofLines (weekLines start o.today (Date.span start o.today)
          (fun day => (spent d.draft.rows chat.user day day).toDouble) largest)), after) := by
  have hlines : (weekFrom start).map (fun day => "• " ++ day.shortText ++ ": " ++
        Money.text (sumOn (Ledger.dailyTotals d.draft.rows chat.user start o.today) day)) =
      (Date.span start o.today).map fun day => "• " ++ day.shortText ++ ": " ++
        Money.text (spent d.draft.rows chat.user day day).toDouble := by
    rw [weekFrom_eq h]
    exact List.map_congr_left fun day hday => by rw [sumOn_dailyTotals hday]
  refine ⟨_, largestLine_of_totals d.draft.rows chat.user start o.today, ?_⟩
  rw [weekLines, ← hlines, ← sum_dailyTotals]
  unfold weekly shift
  rw [h]
  exact ⟨_, rfl⟩

end Reply

/-- From the seventh day of the calendar on, whoever asks for the summary of the week is shown the
seven dates that end with today, in order, each with the sum of its rows.  Every expense of the user
dated in this window is a row of its own date and of no other one, and no other row is one of any
date.  The total is the sum of the seven amounts that are shown, and the category that is named,
when there is a row, is the one on which most was spent in the window. -/
theorem week_of_summary {c : Circumstances} {m : Message} {s : Service}
    {phone word : String} {chat : Chat}
    {today : Date} (hfirst : (⟨1, 1, 7, by decide⟩ : Date) ≤ today)
    (hchat : s.chats.get? phone = some chat)
    (hword : (word, .weekly) ∈ Command.wordCommands) (hasks : m.Asks c today phone word) :
    ∃ start, today.addDays? (-6) = some start ∧
      let days := Date.span start today
      let rowsOn := fun d => expenses s.ledger.rows chat.user d d
      (days.length = 7 ∧ days.Pairwise (· < ·) ∧ ∀ d, d ∈ days ↔ start ≤ d ∧ d ≤ today) ∧
      (∀ d, ∀ r ∈ rowsOn d, r.date = d) ∧
      (days.flatMap rowsOn).Perm ((Ledger.ownExpenses s.ledger.rows chat.user).filter
        fun r => decide (start ≤ r.date ∧ r.date ≤ today)) ∧
      ∃ largest, Reply.LargestLine s.ledger.rows chat.user start today largest ∧
        (m.handle c .none s).1 = .ok (.ofReply (Reply.ofLines
          (Reply.weekLines start today days (fun d => (Ledger.cashOf (rowsOn d)).toDouble)
            largest))) := by
  have hseventh : 7 ≤ today.number := Date.le_iff.mp hfirst
  have hbound := today.number_le_lastNumber
  obtain ⟨start, -, hnumber⟩ := Date.exists_ofNumber? (n := today.number - 6) (by omega) (by omega)
  have hstart : today.addDays? (-6) = some start := Date.addDays?_eq_some_iff.mpr (by omega)
  obtain ⟨largest, hlargest, after, hrun⟩ :=
    Reply.run_weekly phone s.desk (c.occasion today) chat hstart
  refine ⟨start, hstart, ⟨?_, Date.pairwise_span start today, fun _ => Date.mem_span_iff⟩,
    ?_, ?_, largest, hlargest, hasks.answered hword hchat hrun⟩
  · rw [Date.length_span]
    omega
  · intro d r hr
    obtain ⟨-, -, hfrom, hto⟩ := Ledger.mem_expenses_iff.mp hr
    exact Date.le_antisymm hto hfrom
  · rw [← Ledger.expenses_eq_filter]
    exact Ledger.perm_flatMap_days _ _ _ _

/-- The week before the first of March has a leap day in it.  The row of the day before the window
is shown nowhere. -/
theorem week_of_summary_of_leap_day :
    let today : Date := ⟨2028, 3, 1, by decide⟩
    let start : Date := ⟨2028, 2, 24, by decide⟩
    let leap : Date := ⟨2028, 2, 29, by decide⟩
    let rows : List Row := [
      ⟨1, 1, "Kopi", .hundredths 2500000, "Makanan", start, .expense, 1⟩,
      ⟨2, 1, "Sate", .hundredths 3000000, "Makanan", ⟨2028, 2, 23, by decide⟩, .expense, 2⟩,
      ⟨3, 1, "Bensin", .hundredths 5000000, "Transport", leap, .expense, 3⟩]
    let chat : Chat := { user := 1, email := "budi@gmail.com", name := "budi" }
    let s : Service :=
      { ledger := { rows := rows, nextId := 4 }, chats := Roster.empty.set "62" chat }
    let c : Circumstances := { settings := {}, now := ⟨1835492400⟩ }
    let m : Message := { sender := "62@c.us", text := some "!Minggu" }
    let shown := fun d => (spent rows 1 d d).toDouble
    (Date.span start today).map shown = [25000, 0, 0, 0, 0, 50000, 0] ∧
      ∃ largest, Reply.LargestLine rows 1 start today largest ∧
        (m.handle c .none s).1 =
          .ok (.ofReply
            (Reply.ofLines
              (Reply.weekLines start today (Date.span start today) shown largest))) := by
  intro today start leap rows chat s c m shown
  have hasks : m.Asks c today "62" "!minggu" :=
    ⟨by decide +kernel, by decide +kernel, by decide +kernel, by decide +kernel⟩
  obtain ⟨first, hfirst, -, -, -, largest, hlargest, hreply⟩ :=
    week_of_summary (s := s) (by decide) rfl (by decide +kernel) hasks
  have hstart : today.addDays? (-6) = some start := by decide +kernel
  obtain rfl : start = first := Option.some.inj (hstart.symm.trans hfirst)
  exact ⟨by decide +kernel, largest, hlargest, hreply⟩

end BukuKas
