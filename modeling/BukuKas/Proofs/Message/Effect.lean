import BukuKas.Proofs.Message.Atomic
import BukuKas.Proofs.Reply.Effect

/-!
# What a message does

A message that is answered with a success has done to the ledger and to the own chat what its intent
means, and nothing else: the committed rows, the counter and the chat are those of the standing
after the intent, and users, periods and all other chats are as before.

What holds of a standing after an intent is proved once for the three things that any intent is made
of: an expense is recorded, a row is removed, or the chat is changed without a new last recording.

## Main results

* `service_of_answered` : the service after a message that was answered and committed.
* `Standing.after_induction` : what recording, removing and chatting preserve, every intent
  preserves.
-/

namespace BukuKas

open Calendar (Date)

namespace Standing

/-! ## What an intent is made of -/

section Induction

variable {P : Standing → Prop} {st last : Standing}

theorem recordAll_induction {es : List Entry}
    (hrecord : ∀ {st next e}, e ∈ es → st.record e = some next → P st → P next)
    (h : st.recordAll es = some last) (hst : P st) : P last := by
  induction es generalizing st with
  | nil =>
      injection h with h
      exact h ▸ hst
  | cons e es ih =>
      obtain ⟨first, hfirst, hrest⟩ := Option.bind_eq_some_iff.mp h
      exact ih (fun hmem => hrecord (List.mem_cons_of_mem e hmem)) hrest
        (hrecord List.mem_cons_self hfirst hst)

/-- What recordings of its entries, removals and changes of the chat preserve, an intent
preserves. -/
theorem after_induction_entries {today : Date} {intent : Intent}
    (hrecord : ∀ {st next e}, e ∈ intent.entries → st.record e = some next → P st → P next)
    (hremove : ∀ {st} (id : Int), P st → P (st.remove id))
    (hchat : ∀ {st} {chat : Chat}, st.chat.restore chat = chat →
      (chat.last = st.chat.last ∨ chat.last = none) → P st → P { st with chat := chat })
    (h : st.after today intent = some last) (hst : P st) : P last := by
  cases hasks : intent.asksOnly with
  | true =>
      rw [after_of_asksOnly hasks] at h
      injection h with h
      exact h ▸ hst
  | false =>
      cases intent with
      | add e => exact hrecord List.mem_cons_self h hst
      | addMany es => exact recordAll_induction hrecord h hst
      | undo =>
          injection h with h
          subst h
          unfold takeBack
          cases st.chat.last with
          | none => exact hst
          | some id => exact @hchat (st.remove id) _ rfl (.inr rfl) (hremove id hst)
      | delete index =>
          injection h with h
          subst h
          unfold removeListed
          cases Reply.nth? (Ledger.listDay st.rows st.chat.user today) index with
          | none => exact hst
          | some row =>
              dsimp only
              split
              · exact @hchat (st.remove row.id) _ rfl (.inr rfl) (hremove row.id hst)
              · exact hremove row.id hst
      | addReminder name day =>
          injection h with h
          subst h
          exact hchat rfl (.inl rfl) hst
      | deleteReminder index =>
          injection h with h
          subst h
          unfold unremind
          cases Reply.nth? st.chat.reminders index with
          | none => exact hst
          | some reminder => exact hchat rfl (.inl rfl) hst
      | setAlert enabled =>
          injection h with h
          subst h
          exact hchat rfl (.inl rfl) hst
      | _ => exact nomatch hasks

/-- What recordings, removals and changes of the chat preserve, every intent preserves. -/
theorem after_induction (hrecord : ∀ {st next e}, st.record e = some next → P st → P next)
    (hremove : ∀ {st} (id : Int), P st → P (st.remove id))
    (hchat : ∀ {st} {chat : Chat}, st.chat.restore chat = chat →
      (chat.last = st.chat.last ∨ chat.last = none) → P st → P { st with chat := chat })
    {today : Date} {intent : Intent} (h : st.after today intent = some last) (hst : P st) :
    P last :=
  after_induction_entries (fun _ => hrecord) hremove hchat h hst

end Induction

/-- A recorded expense stands last, under the number that was next. -/
theorem of_record {st next : Standing} {e : Entry} (h : st.record e = some next) :
    ∃ amount, next = {
      rows := st.rows ++ [Row.ofEntry st.next st.chat.user amount e]
      next := st.next + 1
      chat := { st.chat with last := some st.next } } := by
  obtain ⟨amount, -, hnext⟩ := Option.map_eq_some_iff.mp h
  exact ⟨amount, hnext.symm⟩

/-! ## Numbers of rows -/

/-- A number that rows carry was handed out before the next one, for all rows. -/
def Below (f : Row → Int) (st : Standing) : Prop := ∀ r ∈ st.rows, f r < st.next

/-- Rows that are recorded carry the next number, so no intent brings in a larger one. -/
theorem below_after {f : Row → Int} (hf : ∀ id user amount e, f (Row.ofEntry id user amount e) = id)
    {st last : Standing} {today : Date} {intent : Intent} (h : st.after today intent = some last)
    (hst : st.Below f) : last.Below f := by
  refine after_induction ?_ ?_ ?_ h hst
  · intro first next e hrecord hfirst r hr
    obtain ⟨amount, rfl⟩ := of_record hrecord
    rcases List.mem_append.mp hr with hr | hr
    · have hlt := hfirst r hr
      show f r < first.next + 1
      omega
    · rw [List.mem_singleton.mp hr, hf]
      show first.next < first.next + 1
      omega
  · intro first id hfirst r hr
    exact hfirst r (Write.mem_apply_delete.mp hr).1
  · intro first chat _ _ hfirst
    exact hfirst

/-- The counter never goes back. -/
theorem next_le_after {st last : Standing} {today : Date} {intent : Intent}
    (h : st.after today intent = some last) : st.next ≤ last.next := by
  refine after_induction (P := fun other => st.next ≤ other.next) ?_ ?_ ?_ h (Int.le_refl _)
  · intro first next e hrecord hfirst
    obtain ⟨amount, rfl⟩ := of_record hrecord
    show st.next ≤ first.next + 1
    omega
  · intro first id hfirst
    exact hfirst
  · intro first chat _ _ hfirst
    exact hfirst

/-- The chat refers to a recording before the next one, if to any. -/
theorem last_after {st last : Standing} {today : Date} {intent : Intent}
    (h : st.after today intent = some last) (hst : ∀ id, st.chat.last = some id → id < st.next) :
    ∀ id, last.chat.last = some id → id < last.next := by
  refine after_induction (P := fun other => ∀ id, other.chat.last = some id → id < other.next)
    ?_ ?_ ?_ h hst
  · intro first next e hrecord _ id hid
    obtain ⟨amount, rfl⟩ := of_record hrecord
    have hnumber : first.next = id := Option.some.inj hid
    show id < first.next + 1
    omega
  · intro first id hfirst
    exact hfirst
  · intro first chat _ hlast hfirst id hid
    rcases hlast with hsame | hnone
    · exact hfirst id (hsame.symm.trans hid)
    · exact nomatch hnone.symm.trans hid

end Standing

namespace Service

/-- What an intent from a chat can act on. -/
def standing (s : Service) (chat : Chat) : Standing :=
  ⟨s.ledger.rows, s.ledger.nextId, chat⟩

/-- The service with the rows, the counter and the chat of a standing. -/
def settled (s : Service) (phone : String) (st : Standing) : Service where
  ledger := { s.ledger with rows := st.rows, nextId := st.next }
  chats := s.chats.set phone st.chat

theorem settled_standing {s : Service} {phone : String} {chat : Chat}
    (hchat : s.chats.get? phone = some chat) : s.settled phone (s.standing chat) = s := by
  unfold settled standing
  rw [Roster.set_of_get? hchat]

theorem settled_settled (s : Service) (phone : String) (first second : Standing) :
    (s.settled phone first).settled phone second = s.settled phone second := by
  unfold settled
  rw [Roster.set_set]

theorem get?_settled (s : Service) (phone : String) (st : Standing) :
    (s.settled phone st).chats.get? phone = some st.chat :=
  Roster.get?_set_self s.chats phone st.chat

/-- At the beginning of a unit of work the desk shows what an intent can act on. -/
theorem shows_desk {s : Service} {phone : String} {chat : Chat}
    (hchat : s.chats.get? phone = some chat) : s.desk.Shows s.chats phone (s.standing chat) :=
  ⟨rfl, rfl, (Roster.set_of_get? hchat).symm⟩

end Service

namespace Message

variable {c : Circumstances} {plan : FaultPlan} {m : Message} {s : Service}

/-- The service after a message that was answered and committed. -/
theorem service_of_answered {o : Occasion} {chat : Chat} {intent : Intent}
    {reply : Reply} {d : Desk} (hchat : s.chats.get? m.phone = some chat)
    (hrun : (Reply.answer o (some chat) intent).run plan m.phone s.desk = (.ok reply, d))
    (hcommit : (d.ask plan .commit).1 = .ok ()) :
    ∃ st, (s.standing chat).after o.today intent = some st ∧
      (d.ask plan .commit).2.service = s.settled m.phone st := by
  obtain ⟨st, hafter, hst⟩ := Reply.shows_answer (Service.shows_desk hchat) hrun
  refine ⟨st, hafter, ?_⟩
  have hdrafts := Work.drafts_run (Reply.keeps_answer o chat intent) plan
    (Desk.drafts_desk hchat)
  rw [hrun] at hdrafts
  obtain ⟨n, -, hledger⟩ := hdrafts.ledger
  obtain ⟨-, hdraft⟩ := Desk.perform_of_ask hcommit
  have hnext : n = st.next := by
    rw [← hst.next, hledger]
  unfold Desk.service Service.settled
  rw [Desk.chats_ask, hst.chats, hdraft]
  show Service.mk { d.draft.ledger with rows := d.draft.rows } _ = _
  rw [hst.rows, hledger, hnext]

end Message

end BukuKas
