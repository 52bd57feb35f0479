import BukuKas.Proofs.Renumbering.Work
import BukuKas.Proofs.Reply.Rule

/-!
# Answers do not show numbers

No reply shows the number of a row.  An answer in a chat with changed numbers therefore mirrors the
answer in the chat as it was, and both end with the same reply: sums have no numbers, lists show
everything of a row but its numbers, and a row that is picked from a list, or remembered as the last
one, is removed under its changed number.

## Main results

* `mirrors_answer` : the answer to every intent mirrors itself, with the same reply.
-/

namespace BukuKas.Reply

variable {base : Int} (g : Renumbering base)

/-! ## Lists -/

/-- What a numbered list shows of changed values, it shows of the values. -/
theorem numbered_map {α β : Type} (f : α → β) (lines : Nat → β → List String) (xs : List α) :
    numbered lines (xs.map f) = numbered (fun n x => lines n (f x)) xs := by
  unfold numbered
  rw [List.zipIdx_map, List.flatMap_map]
  rfl

theorem nth?_map {α β : Type} (f : α → β) (xs : List α) (index : Int) :
    nth? (xs.map f) index = (nth? xs index).map f := by
  unfold nth?
  split
  · rfl
  · rw [List.getElem?_map]

/-- The list of a day does not show the numbers of the rows. -/
theorem dayList_map (day : Calendar.Date) (rows : List Row) :
    dayList day (rows.map g.row) = dayList day rows := by
  have hlines : numbered (fun n (r : Row) => itemLines n r.item r.amount.toDouble r.category)
      (rows.map g.row) =
      numbered (fun n (r : Row) => itemLines n r.item r.amount.toDouble r.category) rows :=
    numbered_map g.row _ rows
  have hamounts : (rows.map g.row).map (fun r => r.amount.toDouble) =
      rows.map fun r => r.amount.toDouble := by
    rw [List.map_map]
    rfl
  unfold dayList
  rw [List.isEmpty_map, hlines, hamounts]

section Answers

variable (o : Occasion) (chat : Chat)

theorem mirrors_today : (today o chat).Mirrors g id (today o (g.chat chat)) := by
  apply Work.Mirrors.query_listToday chat.user o.today
  intro rows
  rw [dayList_map]
  exact .done _

theorem mirrors_recap : (recap o chat).Mirrors g id (recap o (g.chat chat)) := by
  apply Work.Mirrors.query_of_sums rfl rfl
  intro period
  apply Work.Mirrors.query_listTransactions chat.user _ _
  intro rows
  apply Work.Mirrors.query_of_sums rfl rfl
  intro amounts
  have hentries : (rows.map g.row).map Row.entry = rows.map Row.entry := by
    rw [List.map_map]
    rfl
  rw [hentries, List.isEmpty_map, List.length_map]
  apply Work.Mirrors.bind (Work.mirrors_ofExcept g _)
  intro points
  apply Work.Mirrors.bind (Work.mirrors_ofExcept g _)
  intro budget
  exact .done _

theorem mirrors_undo : (undo chat).Mirrors g id (undo (g.chat chat)) := by
  have hrenumbered : (g.chat chat).last = chat.last.map g.number := rfl
  unfold undo
  rw [hrenumbered]
  cases chat.last with
  | none => exact .done _
  | some id =>
      apply Work.Mirrors.query_delete chat.user id
      intro removed
      apply Work.Mirrors.bind (Work.mirrors_put g { chat with last := none })
      intro _
      cases removed <;> exact .done _

theorem mirrors_delete (index : Int) :
    (delete o chat index).Mirrors g id (delete o (g.chat chat) index) := by
  apply Work.Mirrors.query_listToday chat.user o.today
  intro rows
  rw [List.isEmpty_map, nth?_map, List.length_map]
  split
  · exact .done _
  · cases nth? rows index with
    | none => exact .done _
    | some row =>
        apply Work.Mirrors.query_delete chat.user row.id
        intro removed
        have hlast : (g.chat chat).last = some (g.row row).id ↔ chat.last = some row.id := by
          show chat.last.map g.number = some (g.number row.id) ↔ _
          cases chat.last <;> simp [g.eq_iff]
        by_cases h : chat.last = some row.id
        · rw [if_pos h, if_pos (hlast.mpr h)]
          exact Work.Mirrors.bind (Work.mirrors_put g { chat with last := none }) fun _ => .done _
        · rw [if_neg h, if_neg fun h' => h (hlast.mp h')]
          exact .done _

/-- The end of a recording: the line with the points, then the warning. -/
theorem mirrors_recorded {chat' : Chat} (huser : chat'.user = chat.user)
    (halert : chat'.alert = chat.alert) (earned : Int)
    (lines : String → List String → List String) :
    Work.Mirrors g id
      (do
        let experience ← experienceLine chat.user earned
        let warning ← alertLines o.threshold chat
        return ofLines (lines experience warning))
      (do
        let experience ← experienceLine chat'.user earned
        let warning ← alertLines o.threshold chat'
        return ofLines (lines experience warning)) := by
  have hwarning : alertLines o.threshold chat' = alertLines o.threshold chat := by
    unfold alertLines
    rw [huser, halert]
  rw [huser, hwarning]
  apply Work.Mirrors.bind (Work.mirrors_self g (keeps_experienceLine chat.user earned))
  intro _
  exact Work.Mirrors.bind (Work.mirrors_self g (keeps_alertLines o.threshold chat)) fun _ => .done _

theorem mirrors_add (e : Entry) : (add o chat e).Mirrors g id (add o (g.chat chat) e) := by
  apply Work.Mirrors.query_insert chat.user e
  intro recording
  apply Work.Mirrors.bind (Work.mirrors_put g { chat with last := some recording.id })
  intro _
  apply Work.Mirrors.bind (Work.mirrors_ofExcept g _)
  intro earned
  exact mirrors_recorded g o { chat with last := some recording.id } rfl rfl earned _

theorem mirrors_addAll (earned : Int) (es : List Entry) :
    (addAll chat earned es).Mirrors g (fun recorded => (g.chat recorded.1, recorded.2))
      (addAll (g.chat chat) earned es) := by
  induction es generalizing chat earned with
  | nil => exact .done (chat, earned)
  | cons e es ih =>
      apply Work.Mirrors.query_insert chat.user e
      intro recording
      apply Work.Mirrors.bind (Work.mirrors_put g { chat with last := some recording.id })
      intro _
      apply Work.Mirrors.bind (Work.mirrors_ofExcept g _)
      intro points
      exact ih { chat with last := some recording.id } (earned + points)

theorem mirrors_addMany (es : List Entry) :
    (addMany o chat es).Mirrors g id (addMany o (g.chat chat) es) := by
  apply Work.Mirrors.bind (mirrors_addAll g chat 0 es)
  intro recorded
  exact mirrors_recorded g o recorded.1 rfl rfl recorded.2 _

theorem mirrors_deleteReminder (index : Int) :
    (deleteReminder chat index).Mirrors g id (deleteReminder (g.chat chat) index) := by
  have hreminders : (g.chat chat).reminders = chat.reminders := rfl
  unfold deleteReminder
  rw [hreminders]
  split
  · exact .done _
  · cases nth? chat.reminders index with
    | none => exact .done _
    | some reminder =>
        exact Work.Mirrors.bind (Work.mirrors_put g { chat with
          reminders := chat.reminders.eraseIdx (index - 1).toNat }) fun _ => .done _

/-- The answer to every intent mirrors itself, with the same reply. -/
theorem mirrors_answer (intent : Intent) :
    (answer o (some chat) intent).Mirrors g id (answer o (some (g.chat chat)) intent) := by
  cases intent with
  | add e => exact mirrors_add g o chat e
  | addMany es => exact mirrors_addMany g o chat es
  | remaining => exact Work.mirrors_self g (keeps_remaining o chat)
  | spending => exact Work.mirrors_self g (keeps_spending o chat)
  | today => exact mirrors_today g o chat
  | weekly => exact Work.mirrors_self g (keeps_weekly o chat)
  | undo => exact mirrors_undo g chat
  | delete index => exact mirrors_delete g o chat index
  | addReminder name day =>
      exact Work.Mirrors.bind (Work.mirrors_put g { chat with
        reminders := chat.reminders ++ [⟨name, day⟩] }) fun _ => .done _
  | deleteReminder index => exact mirrors_deleteReminder g chat index
  | comparison => exact Work.mirrors_self g (keeps_comparison o chat)
  | prediction => exact Work.mirrors_self g (keeps_prediction o chat)
  | recap => exact mirrors_recap g o chat
  | health => exact Work.mirrors_self g (keeps_health o chat)
  | mood => exact Work.mirrors_self g (keeps_mood o chat)
  | setAlert enabled =>
      exact Work.Mirrors.bind (Work.mirrors_put g { chat with alert := enabled }) fun _ => .done _
  | categories | listReminders | challenge | tip | help | unknown => exact .done _

end Answers

end BukuKas.Reply
