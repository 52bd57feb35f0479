import BukuKas.Proofs.Calendar.Month
import BukuKas.Proofs.Message.Asked
import BukuKas.Proofs.Message.Numbered
import BukuKas.Proofs.Reply.Success

/-!
# This month beside the last one

A comparison of months takes four dates: the first day of this month, the day before it, the first
day of the month of that day, and the day of that month with the number of today, or the last one
where the month is too short.  Each of them exists, from the second month of the calendar on, and
they bound two windows that are equally long as far as the month before has as many days.

## Main results

* `Reply.compares_monthWindows` : the windows of a comparison.
* `windows_of_comparison` : what a comparison is asked for and shows.
-/

namespace BukuKas

open Calendar (Date daysInMonth)
open Number (Binary64)

namespace Reply

/-- The windows compare the month of today up to today with the same days of the whole month
before. -/
structure MonthWindows.Compares (w : MonthWindows) (today : Date) : Prop where
  thisStart : Date.ofParts? today.year today.month 1 = some w.thisStart
  lastStop : w.thisStart.addDays? (-1) = some w.lastStop
  /-- The day before this month is the last one of the month before. -/
  isLast : Date.IsLast w.thisStart w.lastStop
  lastStart : Date.ofParts? w.lastStop.year w.lastStop.month 1 = some w.lastStart
  /-- The day that corresponds to today, or the last one where there is no such day. -/
  lastSame : Date.ofParts? w.lastStop.year w.lastStop.month (min today.day w.lastStop.day) =
    some w.lastSame
  inside : w.lastStart ≤ w.lastSame ∧ w.lastSame ≤ w.lastStop
  disjoint : ∀ d ∈ Date.span w.lastStart w.lastStop, d ∉ Date.span w.thisStart today
  /-- The two windows have equally many days as long as the month before is not too short. -/
  sameLength : today.day ≤ w.lastStop.day →
    (Date.span w.lastStart w.lastSame).length = (Date.span w.thisStart today).length
  clipped : w.lastStop.day < today.day → w.lastSame = w.lastStop

theorem compares_monthWindows {today : Date} {w : MonthWindows} (h : monthWindows? today = some w) :
    w.Compares today := by
  obtain ⟨lastStop, hstop, rfl⟩ := Option.map_eq_some_iff.mp h
  have hlast := Date.IsLast.of_dayBefore today.firstOfMonth_day hstop
  have hday : 1 ≤ today.day := today.isDate.2.2.2.2.1
  have hbefore := Date.addDays?_eq_some_iff.mp hstop
  have hwhole := Date.number_eq_add_day lastStop
  -- the day that corresponds to today lies in the month that ends before this one
  have hclip : lastStop.firstOfMonth.clipDay today.day = lastStop.clipDay today.day := rfl
  have hfirst : (lastStop.clipDay today.day).firstOfMonth = lastStop.firstOfMonth := rfl
  have hsame : (lastStop.clipDay today.day).day = min today.day lastStop.day := by
    rw [hlast.day, Date.day_clipDay lastStop hday]
  have hmonth := Date.number_eq_add_day (lastStop.clipDay today.day)
  rw [hfirst, hsame] at hmonth
  refine {
    thisStart := Date.ofParts?_firstOfMonth today
    lastStop := hstop
    isLast := hlast
    lastStart := Date.ofParts?_firstOfMonth lastStop
    lastSame := hlast.day ▸ Date.ofParts?_clipDay lastStop hday
    inside := ?inside
    disjoint := ?disjoint
    sameLength := ?sameLength
    clipped := ?clipped }
  case inside =>
    simp only [hclip, Date.le_iff]
    have hone : 1 ≤ lastStop.day := lastStop.isDate.2.2.2.2.1
    omega
  case disjoint =>
    intro d hbehind hthis
    rw [Date.mem_span_iff, Date.le_iff, Date.le_iff] at hbehind hthis
    dsimp only at hbehind hthis
    omega
  case sameLength =>
    intro hle
    have hlength := Date.length_span_of_month (lastStop.clipDay today.day)
    rw [hfirst, hsame, Nat.min_eq_left hle] at hlength
    exact hlength.trans (Date.length_span_of_month today).symm
  case clipped =>
    intro hlt
    dsimp only at hlt
    apply Date.number_inj.mp
    simp only [hclip]
    omega

/-- The comparison shows what was spent in its three windows. -/
theorem run_comparison (phone : String) (d : Desk) (o : Occasion) (chat : Chat) {w : MonthWindows}
    (h : monthWindows? o.today = some w) :
    let spent := Ledger.sumExpenses d.draft.rows chat.user
    ∃ reply after, (comparison o chat).run .none phone d = (.ok reply, after) ∧ reply.Shows
      ["Bulan ini (1-" ++ toString o.today.day ++ "): " ++ Money.text (spent w.thisStart o.today),
        "Bulan lalu (1-" ++ toString w.lastSame.day ++ "): " ++
          Money.text (spent w.lastStart w.lastSame),
        "Bulan lalu (penuh): " ++ Money.text (spent w.lastStart w.lastStop)] := by
  unfold comparison
  rw [h]
  exact ⟨_, _, rfl, ["📈 *Perbandingan Bulanan*", ""], _, rfl⟩

end Reply

/-- The bounds of a month are its first and its last day.  From the second month of the calendar on,
whoever asks for a comparison is shown what was spent from the first day of this month to today, on
the same days of the month before, and in that whole month, all windows being there. -/
theorem windows_of_comparison {c : Circumstances} {m : Message} {s : Service} {phone word : String}
    {chat : Chat} {today : Date} (htoday : Date.earliest ≤ today)
    (hchat : s.chats.get? phone = some chat)
    (hword : (word, .comparison) ∈ Command.wordCommands) (hasks : m.Asks c today phone word) :
    (∀ d : Date, Date.ofParts? d.year d.month 1 = some d.monthBounds.1 ∧
      Date.ofParts? d.year d.month (daysInMonth d.year d.month) = some d.monthBounds.2 ∧
      ∀ e, d.monthBounds.1 ≤ e ∧ e ≤ d.monthBounds.2 ↔ e.year = d.year ∧ e.month = d.month) ∧
    ∃ w, Reply.monthWindows? today = some w ∧ w.Compares today ∧
      ∃ reply, (m.handle c .none s).1 = .ok (.ofReply reply) ∧
        let spent := Ledger.sumExpenses s.ledger.rows chat.user
        reply.Shows
          ["Bulan ini (1-" ++ toString today.day ++ "): " ++ Money.text (spent w.thisStart today),
            "Bulan lalu (1-" ++ toString w.lastSame.day ++ "): " ++
              Money.text (spent w.lastStart w.lastSame),
            "Bulan lalu (penuh): " ++ Money.text (spent w.lastStart w.lastStop)] := by
  refine ⟨fun d => ⟨d.ofParts?_firstOfMonth, d.ofParts?_lastOfMonth,
    fun _ => Date.mem_month_iff⟩, ?_⟩
  obtain ⟨w, hw⟩ := Reply.exists_monthWindows htoday
  obtain ⟨reply, after, hrun, hshows⟩ :=
    Reply.run_comparison phone s.desk (c.occasion today) chat hw
  exact ⟨w, hw, Reply.compares_monthWindows hw, reply, hasks.answered hword hchat hrun, hshows⟩

/-- On the last of March the whole of a February is compared, its leap day being the last one. -/
theorem windows_of_comparison_of_march :
    let today : Date := ⟨2028, 3, 31, by decide⟩
    let leap : Date := ⟨2028, 2, 29, by decide⟩
    let chat : Chat := { user := 1, email := "budi@gmail.com", name := "budi" }
    let s : Service := {
      ledger :=
        { rows := [⟨1, 1, "Kopi", .hundredths 2500000, "Makanan", leap, .expense, 1⟩], nextId := 2 }
      chats := Roster.empty.set "62" chat }
    let c : Circumstances := { settings := {}, now := ⟨1838084400⟩ }
    let m : Message := { sender := "62@c.us", text := some "!Banding " }
    ∃ w, Reply.monthWindows? today = some w ∧ w.lastSame = leap ∧ w.lastSame = w.lastStop ∧
      ∃ reply, (m.handle c .none s).1 = .ok (.ofReply reply) ∧ reply.Shows
        ["Bulan ini (1-" ++ toString 31 ++ "): " ++ Money.text 0,
          "Bulan lalu (1-" ++ toString 29 ++ "): " ++ Money.text 25000,
          "Bulan lalu (penuh): " ++ Money.text 25000] := by
  intro today leap chat s c m
  have hasks : m.Asks c today "62" "!banding" :=
    ⟨by decide +kernel, by decide +kernel, by decide +kernel, by decide +kernel⟩
  obtain ⟨-, w, hw, hcompares, reply, hreply, hshows⟩ :=
    windows_of_comparison (s := s) (by decide) rfl (by decide +kernel) hasks
  have hwindows : Reply.monthWindows? today =
      some ⟨⟨2028, 3, 1, by decide⟩, ⟨2028, 2, 1, by decide⟩, leap, leap⟩ := by decide +kernel
  obtain rfl := Option.some.inj (hwindows.symm.trans hw)
  have hnow : Ledger.sumExpenses s.ledger.rows chat.user ⟨2028, 3, 1, by decide⟩ today = 0 := by
    decide +kernel
  have hbefore : Ledger.sumExpenses s.ledger.rows chat.user ⟨2028, 2, 1, by decide⟩ leap =
      25000 := by
    decide +kernel
  dsimp only at hshows
  rw [hnow, hbefore] at hshows
  exact ⟨_, hw, rfl, hcompares.clipped (by decide), reply, hreply, hshows⟩

end BukuKas
