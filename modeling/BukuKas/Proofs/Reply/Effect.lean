import BukuKas.Proofs.Reply.Rule
import BukuKas.Proofs.Work.Frame

/-!
# What an answer does

An intent acts on little: the rows as the sender's unit of work sees them, the number of the next
row, and the own chat.  `Standing` gathers these, and `Standing.after` says what each intent makes
of them, as plain functions on rows and chats, without queries, faults or replies.  An answer that
comes to an end has done just that.

## Main results

* `shows_answer` : every answer that succeeds leads to the standing after its intent.
* `shows_undo` : the reply to taking back tells whether there was a row to take back.
-/

namespace BukuKas

open Calendar (Date)

/-- What an intent can act on. -/
structure Standing where
  /-- The rows as the unit of work sees them. -/
  rows : List Row
  /-- The number of the next row. -/
  next : Int
  /-- The chat of the sender. -/
  chat : Chat

namespace Standing

/-- An expense is recorded, if the ledger keeps such an amount. -/
def record (st : Standing) (e : Entry) : Option Standing :=
  (Cash.ofDouble? e.amount).map fun amount => {
    rows := st.rows ++ [Row.ofEntry st.next st.chat.user amount e]
    next := st.next + 1
    chat := { st.chat with last := some st.next } }

/-- Expenses are recorded one after the other. -/
def recordAll (st : Standing) : List Entry → Option Standing
  | [] => some st
  | e :: es => (st.record e).bind fun recorded => recorded.recordAll es

/-- The row of the user with that number is removed, if there is one. -/
def remove (st : Standing) (id : Int) : Standing :=
  { st with rows := Write.apply st.rows (.delete st.chat.user id) }

/-- The last recording is taken back, and is no longer the last one. -/
def takeBack (st : Standing) : Standing :=
  match st.chat.last with
  | none => st
  | some id => { st.remove id with chat := { st.chat with last := none } }

/-- The row with a number in the list of a day is removed. -/
def removeListed (st : Standing) (today : Date) (index : Int) : Standing :=
  match Reply.nth? (Ledger.listDay st.rows st.chat.user today) index with
  | none => st
  | some row =>
      { st.remove row.id with
        chat := if st.chat.last = some row.id then { st.chat with last := none } else st.chat }

/-- The reminder with a number in the list is removed. -/
def unremind (st : Standing) (index : Int) : Standing :=
  match Reply.nth? st.chat.reminders index with
  | none => st
  | some _ =>
      { st with chat := { st.chat with
          reminders := st.chat.reminders.eraseIdx (index - 1).toNat } }

/-- What an intent makes of a standing on a date. -/
def after (today : Date) (intent : Intent) (st : Standing) : Option Standing :=
  match intent with
  | .add e => st.record e
  | .addMany es => st.recordAll es
  | .undo => some st.takeBack
  | .delete index => some (st.removeListed today index)
  | .addReminder name day =>
      some { st with chat := { st.chat with reminders := st.chat.reminders ++ [⟨name, day⟩] } }
  | .deleteReminder index => some (st.unremind index)
  | .setAlert enabled => some { st with chat := { st.chat with alert := enabled } }
  | _ => some st

/-- An intent that only asks leaves the standing as it is. -/
theorem after_of_asksOnly {intent : Intent} (h : intent.asksOnly = true) (today : Date)
    (st : Standing) : st.after today intent = some st := by
  cases intent <;> first | rfl | exact nomatch h

end Standing

namespace Draft

theorem fst_delete (d : Draft) (user id : Int) :
    (d.delete user id).1 = d.rows.any fun r => r.id == id && r.user == user := by
  unfold delete
  split
  · rename_i h
    exact h.symm
  · rename_i h
    exact (Bool.eq_false_iff.mpr h).symm

theorem ledger_delete (d : Draft) (user id : Int) : (d.delete user id).2.ledger = d.ledger := by
  unfold delete
  split <;> rfl

/-- A removal that finds no row writes nothing, and would change nothing. -/
theorem rows_delete (d : Draft) (user id : Int) :
    (d.delete user id).2.rows = Write.apply d.rows (.delete user id) := by
  unfold delete
  split
  · exact Write.applyAll_append d.ledger.rows d.writes [.delete user id]
  · rename_i h
    refine (List.filter_eq_self.mpr fun r hr => ?_).symm
    have hother := List.any_eq_false.mp (Bool.eq_false_iff.mpr h) r hr
    simpa [Decidable.imp_iff_not_or] using hother

/-- A recording gets the next number, and its row stands last. -/
theorem of_insert {d : Draft} {user : Int} {e : Entry} {recording : Recording}
    (h : (d.perform (.insert user e)).1 = .ok recording) :
    recording.id = d.ledger.nextId ∧ ∃ amount, Cash.ofDouble? e.amount = some amount ∧
      (d.perform (.insert user e)).2.rows =
        d.rows ++ [Row.ofEntry d.ledger.nextId user amount e] ∧
      (d.perform (.insert user e)).2.ledger.nextId = d.ledger.nextId + 1 := by
  replace h : (d.insert user e).1 = .ok recording := h
  show _ ∧ ∃ amount, _ ∧ (d.insert user e).2.rows = _ ∧ (d.insert user e).2.ledger.nextId = _
  unfold insert at h ⊢
  cases hamount : Cash.ofDouble? e.amount with
  | none =>
      rw [hamount] at h
      exact nomatch h
  | some amount =>
      rw [hamount] at h
      injection h with hrecording
      refine ⟨by rw [← hrecording], amount, rfl, ?_, rfl⟩
      exact Write.applyAll_append d.ledger.rows d.writes _

end Draft

namespace Desk

variable {plan : FaultPlan} {roster : Roster Chat} {phone : String} {st : Standing}

/-- A desk shows a standing: its rows, its counter, and its chat among the chats of a roster. -/
structure Shows (roster : Roster Chat) (phone : String) (st : Standing) (d : Desk) : Prop where
  rows : d.draft.rows = st.rows
  next : d.draft.ledger.nextId = st.next
  chats : d.chats = roster.set phone st.chat

/-- What is shown does not depend on the calls. -/
theorem Shows.of_eq {d e : Desk} (hd : d.Shows roster phone st) (hdraft : e.draft = d.draft)
    (hchats : e.chats = d.chats) : e.Shows roster phone st :=
  ⟨hdraft ▸ hd.rows, hdraft ▸ hd.next, hchats.trans hd.chats⟩

theorem Shows.ask_of_reads {d : Desk} (hd : d.Shows roster phone st) (plan : FaultPlan) {q : Query}
    (hq : q.reads = true) : (d.ask plan q).2.Shows roster phone st :=
  hd.of_eq (draft_ask_of_reads plan d hq) (chats_ask d q)

/-- A saved chat is the chat of the standing from then on. -/
theorem Shows.save {d : Desk} (hd : d.Shows roster phone st) (chat : Chat) :
    (d.save phone chat).Shows roster phone { st with chat := chat } := by
  have hcontains : d.chats.contains phone = true := by
    rw [hd.chats]
    exact Roster.contains_set_self roster phone st.chat
  unfold Desk.save
  rw [if_pos hcontains]
  refine ⟨hd.rows, hd.next, ?_⟩
  show d.chats.set phone chat = roster.set phone chat
  rw [hd.chats, Roster.set_set]

theorem Shows.put {d after : Desk} {chat : Chat} {done : Unit} (hd : d.Shows roster phone st)
    (h : (Work.put chat).run plan phone d = (.ok done, after)) :
    after.Shows roster phone { st with chat := chat } := by
  have hsave : d.save phone chat = after := (Prod.mk.inj h).2
  rw [← hsave]
  exact hd.save chat

/-- An expense that the ledger takes gets the next number. -/
theorem Shows.insert {d after : Desk} {e : Entry} {recording : Recording}
    (hd : d.Shows roster phone st)
    (h : (Work.query (.insert st.chat.user e)).run plan phone d = (.ok recording, after)) :
    recording.id = st.next ∧ ∃ amount, Cash.ofDouble? e.amount = some amount ∧
      after.Shows roster phone
        { st with
          rows := st.rows ++ [Row.ofEntry st.next st.chat.user amount e]
          next := st.next + 1 } := by
  rw [Work.run_query] at h
  obtain ⟨hanswer, hdraft⟩ := perform_of_ask (congrArg Prod.fst h)
  obtain ⟨hid, amount, hamount, hrows, hnext⟩ := Draft.of_insert hanswer
  have hafter : (d.ask plan (.insert st.chat.user e)).2 = after := congrArg Prod.snd h
  rw [← hafter]
  refine ⟨hid.trans hd.next, amount, hamount, ?_, ?_, (chats_ask d _).trans hd.chats⟩
  · rw [hdraft, ← hd.rows, ← hd.next]
    exact hrows
  · rw [hdraft, ← hd.next]
    exact hnext

/-- A removal takes the row away, and says whether there was one. -/
theorem Shows.delete {d after : Desk} {id : Int} {removed : Bool} (hd : d.Shows roster phone st)
    (h : (Work.query (.delete st.chat.user id)).run plan phone d = (.ok removed, after)) :
    removed = st.rows.any (fun r => r.id == id && r.user == st.chat.user) ∧
      after.Shows roster phone (st.remove id) := by
  rw [Work.run_query] at h
  obtain ⟨hanswer, hdraft⟩ := perform_of_ask (congrArg Prod.fst h)
  have hremoved : (d.draft.delete st.chat.user id).1 = removed := by injection hanswer
  have hafter : (d.ask plan (.delete st.chat.user id)).2 = after := congrArg Prod.snd h
  rw [← hafter]
  refine ⟨?_, ?_, ?_, (chats_ask d _).trans hd.chats⟩
  · rw [← hremoved, Draft.fst_delete, hd.rows]
  · rw [hdraft]
    show (d.draft.delete st.chat.user id).2.rows = Write.apply st.rows (.delete st.chat.user id)
    rw [Draft.rows_delete, hd.rows]
  · rw [hdraft]
    show (d.draft.delete st.chat.user id).2.ledger.nextId = st.next
    rw [Draft.ledger_delete, hd.next]

/-- Work that only asks for sums leaves what is shown. -/
theorem Shows.of_sums {α : Type} {fits : α → Prop} {user : Int} {t : Work α} {d after : Desk}
    {result : Except Fault α} (hd : d.Shows roster phone st) (ht : t.Keeps (Rule.sums user) fits)
    (h : t.run plan phone d = (result, after)) : after.Shows roster phone st := by
  have hreading := Work.keeps_mono ht (Rule.sums_within_reading user) fun _ hfits => hfits
  obtain ⟨hdraft, hchats⟩ := Work.run_of_reading hreading plan phone d
  rw [h] at hdraft hchats
  exact hd.of_eq hdraft hchats

end Desk

namespace Reply

variable {plan : FaultPlan} {roster : Roster Chat} {phone : String} {st : Standing} {o : Occasion}
variable {d after : Desk} {reply : Reply}

/-- The end of a recording: the line with the points, then the warning. -/
theorem shows_recorded {earned : Int} {chat : Chat} {lines : String → List String → List String}
    (hd : d.Shows roster phone st)
    (h : (do
      let experience ← experienceLine chat.user earned
      let warning ← alertLines o.threshold chat
      return ofLines (lines experience warning) : Work Reply).run plan phone d =
        (.ok reply, after)) :
    after.Shows roster phone st := by
  obtain ⟨experience, d₁, hexperience, h⟩ := Work.ok_of_run_bind h
  obtain ⟨warning, d₂, hwarning, h⟩ := Work.ok_of_run_bind h
  have hd₁ := hd.of_sums (keeps_experienceLine chat.user earned) hexperience
  have hd₂ := hd₁.of_sums (keeps_alertLines o.threshold chat) hwarning
  exact (Prod.mk.inj h).2 ▸ hd₂

/-- A recording that is kept as the last one is a recorded expense. -/
theorem shows_record {α : Type} {e : Entry} {recording : Recording} {d₁ d₂ d₃ : Desk} {earned : α}
    {points : Except Fault α} (hd : d.Shows roster phone st)
    (hinsert : (Work.query (.insert st.chat.user e)).run plan phone d = (.ok recording, d₁))
    (hput : (Work.put { st.chat with last := some recording.id }).run plan phone d₁ = (.ok (), d₂))
    (hearned : (Work.ofExcept points).run plan phone d₂ = (.ok earned, d₃)) :
    ∃ recorded, st.record e = some recorded ∧
      recorded.chat = { st.chat with last := some recording.id } ∧
      d₃.Shows roster phone recorded := by
  obtain ⟨hid, amount, hamount, hd₁⟩ := hd.insert hinsert
  have hd₂ := hd₁.put hput
  have hsame : d₂ = d₃ := by
    rw [Work.run_ofExcept] at hearned
    exact (Prod.mk.inj hearned).2
  refine ⟨_, ?_, rfl, hsame ▸ hd₂⟩
  simp [Standing.record, hamount, hid]

theorem shows_add {e : Entry} (hd : d.Shows roster phone st)
    (h : (add o st.chat e).run plan phone d = (.ok reply, after)) :
    ∃ recorded, st.record e = some recorded ∧ after.Shows roster phone recorded := by
  obtain ⟨recording, d₁, hinsert, h⟩ := Work.ok_of_run_bind h
  obtain ⟨done, d₂, hput, h⟩ := Work.ok_of_run_bind h
  obtain ⟨earned, d₃, hearned, h⟩ := Work.ok_of_run_bind h
  obtain ⟨recorded, hrecord, -, hd₃⟩ := shows_record hd hinsert hput hearned
  exact ⟨recorded, hrecord, shows_recorded hd₃ h⟩

theorem shows_addAll {es : List Entry} {earned : Int} {recorded : Chat × Int}
    (hd : d.Shows roster phone st)
    (h : (addAll st.chat earned es).run plan phone d = (.ok recorded, after)) :
    ∃ last, st.recordAll es = some last ∧ after.Shows roster phone last := by
  induction es generalizing st d earned with
  | nil => exact ⟨st, rfl, (Prod.mk.inj h).2 ▸ hd⟩
  | cons e es ih =>
      obtain ⟨recording, d₁, hinsert, h⟩ := Work.ok_of_run_bind h
      obtain ⟨done, d₂, hput, h⟩ := Work.ok_of_run_bind h
      obtain ⟨points, d₃, hpoints, h⟩ := Work.ok_of_run_bind h
      obtain ⟨first, hfirst, hchat, hd₃⟩ := shows_record hd hinsert hput hpoints
      rw [← hchat] at h
      obtain ⟨last, hlast, hafter⟩ := ih hd₃ h
      refine ⟨last, ?_, hafter⟩
      rw [Standing.recordAll, hfirst, Option.bind_some, hlast]

theorem shows_addMany {es : List Entry} (hd : d.Shows roster phone st)
    (h : (addMany o st.chat es).run plan phone d = (.ok reply, after)) :
    ∃ recorded, st.recordAll es = some recorded ∧ after.Shows roster phone recorded := by
  obtain ⟨⟨chat, earned⟩, d₁, hall, h⟩ := Work.ok_of_run_bind h
  obtain ⟨last, hlast, hd₁⟩ := shows_addAll hd hall
  exact ⟨last, hlast, shows_recorded hd₁ h⟩

/-- Taking back removes the last recording, and tells whether it was there. -/
theorem shows_undo (hd : d.Shows roster phone st)
    (h : (undo st.chat).run plan phone d = (.ok reply, after)) :
    after.Shows roster phone st.takeBack ∧
      (reply.text = some takenBack ↔ ∃ id, st.chat.last = some id ∧
        st.rows.any (fun r => r.id == id && r.user == st.chat.user) = true) := by
  unfold undo at h
  unfold Standing.takeBack
  cases hlast : st.chat.last with
  | none =>
      rw [hlast] at h
      obtain ⟨hvalue, hdesk⟩ := Prod.mk.inj h
      injection hvalue with hvalue
      refine ⟨hdesk ▸ hd, ?_⟩
      rw [← hvalue]
      simp [ofText, takenBack]
  | some id =>
      rw [hlast] at h
      dsimp only at h ⊢
      obtain ⟨removed, d₁, hdelete, h⟩ := Work.ok_of_run_bind h
      obtain ⟨done, d₂, hput, h⟩ := Work.ok_of_run_bind h
      obtain ⟨hremoved, hd₁⟩ := hd.delete hdelete
      have hd₂ := hd₁.put hput
      cases removed with
      | true =>
          obtain ⟨hvalue, hdesk⟩ := Prod.mk.inj h
          injection hvalue with hvalue
          refine ⟨hdesk ▸ hd₂, ?_⟩
          rw [← hvalue]
          exact ⟨fun _ => ⟨id, rfl, hremoved.symm⟩, fun _ => rfl⟩
      | false =>
          obtain ⟨hvalue, hdesk⟩ := Prod.mk.inj h
          injection hvalue with hvalue
          refine ⟨hdesk ▸ hd₂, ?_⟩
          rw [← hvalue]
          simp only [Option.some.injEq, exists_eq_left', ← hremoved]
          simp [ofText, takenBack]

theorem shows_delete {index : Int} (hd : d.Shows roster phone st)
    (h : (delete o st.chat index).run plan phone d = (.ok reply, after)) :
    after.Shows roster phone (st.removeListed o.today index) := by
  obtain ⟨rows, d₁, hlist, h⟩ := Work.ok_of_run_bind h
  replace hlist : d.ask plan (.listToday st.chat.user o.today) = (.ok rows, d₁) :=
    (Work.run_query (.listToday st.chat.user o.today) d).symm.trans hlist
  have hrows : rows = Ledger.listDay st.rows st.chat.user o.today := by
    obtain ⟨hanswer, -⟩ := Desk.perform_of_ask (congrArg Prod.fst hlist)
    rw [← hd.rows]
    injection hanswer with hanswer
    exact hanswer.symm
  have hd₁ := hd.ask_of_reads plan (q := .listToday st.chat.user o.today) rfl
  rw [hlist] at hd₁
  unfold Standing.removeListed
  rw [← hrows]
  split at h
  · rename_i hempty
    have hnil : nth? rows index = none := by
      rw [List.isEmpty_iff.mp hempty]
      simp [nth?]
    rw [hnil]
    exact (Prod.mk.inj h).2 ▸ hd₁
  · cases hnth : nth? rows index with
    | none =>
        rw [hnth] at h
        exact (Prod.mk.inj h).2 ▸ hd₁
    | some row =>
        rw [hnth] at h
        dsimp only at h ⊢
        obtain ⟨removed, d₂, hdelete, h⟩ := Work.ok_of_run_bind h
        obtain ⟨-, hd₂⟩ := hd₁.delete hdelete
        by_cases hlast : st.chat.last = some row.id
        · rw [if_pos hlast] at h ⊢
          obtain ⟨done, d₃, hput, h⟩ := Work.ok_of_run_bind h
          have hd₃ := hd₂.put hput
          exact (Prod.mk.inj h).2 ▸ hd₃
        · rw [if_neg hlast] at h ⊢
          exact (Prod.mk.inj h).2 ▸ hd₂

theorem shows_deleteReminder {index : Int} (hd : d.Shows roster phone st)
    (h : (deleteReminder st.chat index).run plan phone d = (.ok reply, after)) :
    after.Shows roster phone (st.unremind index) := by
  unfold deleteReminder at h
  unfold Standing.unremind
  split at h
  · rename_i hempty
    have hnil : nth? st.chat.reminders index = none := by
      rw [List.isEmpty_iff.mp hempty]
      simp [nth?]
    rw [hnil]
    exact (Prod.mk.inj h).2 ▸ hd
  · cases hnth : nth? st.chat.reminders index with
    | none =>
        rw [hnth] at h
        exact (Prod.mk.inj h).2 ▸ hd
    | some reminder =>
        rw [hnth] at h
        dsimp only at h ⊢
        obtain ⟨done, d₁, hput, h⟩ := Work.ok_of_run_bind h
        have hd₁ := hd.put hput
        exact (Prod.mk.inj h).2 ▸ hd₁

/-- An answer that only saves a chat. -/
theorem shows_put {chat : Chat} {r : Reply} (hd : d.Shows roster phone st)
    (h : (do Work.put chat; return r : Work Reply).run plan phone d = (.ok reply, after)) :
    after.Shows roster phone { st with chat := chat } := by
  obtain ⟨done, d₁, hput, h⟩ := Work.ok_of_run_bind h
  have hd₁ := hd.put hput
  exact (Prod.mk.inj h).2 ▸ hd₁

/-- An answer that succeeds has done what its intent means. -/
theorem shows_answer {intent : Intent} (hd : d.Shows roster phone st)
    (h : (answer o (some st.chat) intent).run plan phone d = (.ok reply, after)) :
    ∃ last, st.after o.today intent = some last ∧ after.Shows roster phone last := by
  cases hasks : intent.asksOnly with
  | true =>
      obtain ⟨hdraft, hchats⟩ := Work.run_of_reading
        (keeps_answer_of_asksOnly o st.chat hasks) plan phone d
      rw [h] at hdraft hchats
      exact ⟨st, Standing.after_of_asksOnly hasks o.today st, hd.of_eq hdraft hchats⟩
  | false =>
      cases intent with
      | add e => exact shows_add hd h
      | addMany es => exact shows_addMany hd h
      | undo => exact ⟨_, rfl, (shows_undo hd h).1⟩
      | delete index => exact ⟨_, rfl, shows_delete hd h⟩
      | addReminder name day => exact ⟨_, rfl, shows_put hd h⟩
      | deleteReminder index => exact ⟨_, rfl, shows_deleteReminder hd h⟩
      | setAlert enabled => exact ⟨_, rfl, shows_put hd h⟩
      | _ => exact nomatch hasks

end Reply

end BukuKas
