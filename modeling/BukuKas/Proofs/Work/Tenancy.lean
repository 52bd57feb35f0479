import BukuKas.Proofs.Work.Rule

/-!
# What the work of one user can see

Work that asks about one user only cannot tell two desks apart that agree on what belongs to that
user: the rows and the periods of the user, the chat of the phone, the counter and the calls made so
far.  `Desk.Agree` states this agreement.  Every query about the user is answered alike by both
desks and leaves them in agreement, and so does a whole run.

## Main results

* `Draft.Agree.perform` : one query, with one case for each kind.
* `Work.agree_run` : the run of work under the rule of one user.
-/

namespace BukuKas

/-! ## The rows of a user -/

/-- The rows of a user. -/
def ownRows (user : Int) (rows : List Row) : List Row := rows.filter fun r => r.user == user

/-- The periods of a user. -/
def ownPeriods (user : Int) (periods : List UserPeriod) : List UserPeriod :=
  periods.filter fun p => p.user == user

theorem ownRows_apply (user : Int) (rows : List Row) (w : Write) :
    ownRows user (w.apply rows) = ownRows user (w.apply (ownRows user rows)) := by
  cases w with
  | insert row => simp [ownRows, List.filter_append, List.filter_filter]
  | delete owner id =>
      unfold ownRows Write.apply
      rw [List.filter_filter, List.filter_filter, List.filter_filter]
      apply List.filter_congr
      intro r _
      cases r.user == user <;> simp

/-- What the writes make of the rows of a user depends on these rows alone. -/
theorem ownRows_applyAll {user : Int} {rows other : List Row}
    (h : ownRows user rows = ownRows user other) (writes : List Write) :
    ownRows user (Write.applyAll rows writes) = ownRows user (Write.applyAll other writes) := by
  induction writes generalizing rows other with
  | nil => exact h
  | cons w more ih =>
      have hfirst : ownRows user (w.apply rows) = ownRows user (w.apply other) := by
        rw [ownRows_apply, h, ← ownRows_apply]
      exact ih hfirst

namespace Ledger

open Calendar (Date)

theorem expenses_ownRows (rows : List Row) (user : Int) (start stop : Date) :
    expenses (ownRows user rows) user start stop = expenses rows user start stop := by
  unfold expenses ownRows
  rw [List.filter_filter]
  apply List.filter_congr
  intro r _
  unfold Row.isExpenseOf
  cases r.user == user <;> simp

theorem amounts_ownRows (rows : List Row) (user : Int) :
    amounts (ownRows user rows) user = amounts rows user := by
  unfold amounts ownRows
  rw [List.filter_filter]
  congr 1
  apply List.filter_congr
  intro r _
  unfold Row.isExpenseOf
  cases r.user == user <;> simp

theorem activePeriod_ownPeriods (periods : List UserPeriod) (user : Int) :
    activePeriod (ownPeriods user periods) user = activePeriod periods user := by
  unfold activePeriod ownPeriods
  rw [List.filter_filter]
  have hfilter : (periods.filter fun p => (p.user == user && p.active) && p.user == user) =
      periods.filter fun p => p.user == user && p.active := by
    apply List.filter_congr
    intro p _
    cases p.user == user <;> simp
  rw [hfilter]

theorem any_ownRows (rows : List Row) (user id : Int) :
    ((ownRows user rows).any fun r => r.id == id && r.user == user) =
      rows.any fun r => r.id == id && r.user == user := by
  unfold ownRows
  rw [List.any_filter]
  congr 1
  funext r
  cases r.user == user <;> simp

end Ledger

/-! ## Drafts that agree -/

namespace Draft

/-- Two drafts agree on what belongs to a user. -/
structure Agree (user : Int) (d e : Draft) : Prop where
  next : d.ledger.nextId = e.ledger.nextId
  committed : ownRows user d.ledger.rows = ownRows user e.ledger.rows
  periods : ownPeriods user d.ledger.periods = ownPeriods user e.ledger.periods
  writes : d.writes = e.writes

variable {user : Int} {d e : Draft}

theorem Agree.rows (h : d.Agree user e) : ownRows user d.rows = ownRows user e.rows := by
  unfold Draft.rows
  rw [h.writes]
  exact ownRows_applyAll h.committed e.writes

theorem Agree.expenses (h : d.Agree user e) (start stop : Calendar.Date) :
    Ledger.expenses d.rows user start stop = Ledger.expenses e.rows user start stop := by
  rw [← Ledger.expenses_ownRows, h.rows, Ledger.expenses_ownRows]

/-- Both drafts record an entry alike. -/
theorem Agree.insert (h : d.Agree user e) (entry : Entry) :
    (d.insert user entry).1 = (e.insert user entry).1 ∧
      (d.insert user entry).2.Agree user (e.insert user entry).2 := by
  unfold Draft.insert
  rw [h.next]
  cases Cash.ofDouble? entry.amount with
  | none => exact ⟨rfl, rfl, h.committed, h.periods, h.writes⟩
  | some amount =>
      refine ⟨rfl, rfl, h.committed, h.periods, ?_⟩
      show d.writes ++ _ = e.writes ++ _
      rw [h.writes]

/-- Both drafts find a row of the user, or none of them does. -/
theorem Agree.delete (h : d.Agree user e) (id : Int) :
    (d.delete user id).1 = (e.delete user id).1 ∧
      (d.delete user id).2.Agree user (e.delete user id).2 := by
  have hany : (d.rows.any fun r => r.id == id && r.user == user) =
      e.rows.any fun r => r.id == id && r.user == user := by
    rw [← Ledger.any_ownRows, h.rows, Ledger.any_ownRows]
  unfold Draft.delete
  rw [hany]
  split
  · refine ⟨rfl, h.next, h.committed, h.periods, ?_⟩
    show d.writes ++ _ = e.writes ++ _
    rw [h.writes]
  · exact ⟨rfl, h⟩

/-- A query about the user, a commit and a rollback are performed alike. -/
theorem Agree.perform (h : d.Agree user e) {q : Query}
    (hq : q.user? = some user ∨ q = .commit ∨ q = .rollback) :
    (d.perform q).1 = (e.perform q).1 ∧ (d.perform q).2.Agree user (e.perform q).2 := by
  rcases hq with hq | rfl | rfl
  · cases q with
    | findUser _ | commit | rollback => simp [Query.user?] at hq
    | insert owner entry =>
        cases hq
        exact h.insert entry
    | delete owner id =>
        cases hq
        obtain ⟨hanswer, hagree⟩ := h.delete id
        exact ⟨congrArg Except.ok hanswer, hagree⟩
    | sumExpenses owner start stop =>
        cases hq
        exact ⟨by simp only [Draft.perform, Ledger.sumExpenses, h.expenses], h⟩
    | listTransactions owner start stop =>
        cases hq
        exact ⟨by simp only [Draft.perform, Ledger.listExpenses, h.expenses], h⟩
    | listToday owner day =>
        cases hq
        exact ⟨by simp only [Draft.perform, Ledger.listDay, h.expenses], h⟩
    | activePeriod owner =>
        cases hq
        simp only [Draft.perform]
        rw [← Ledger.activePeriod_ownPeriods, h.periods, Ledger.activePeriod_ownPeriods]
        exact ⟨rfl, h⟩
    | categoryTotals owner start stop =>
        cases hq
        exact ⟨by simp only [Draft.perform, Ledger.categoryTotals, h.expenses], h⟩
    | dailyTotals owner start stop =>
        cases hq
        exact ⟨by simp only [Draft.perform, Ledger.dailyTotals, h.expenses], h⟩
    | expenseAmounts owner =>
        cases hq
        simp only [Draft.perform]
        rw [← Ledger.amounts_ownRows, h.rows, Ledger.amounts_ownRows]
        exact ⟨rfl, h⟩
  · exact ⟨rfl, h.next, h.rows, h.periods, rfl⟩
  · exact ⟨rfl, h.next, h.committed, h.periods, rfl⟩

end Draft

/-! ## Desks that agree -/

namespace Desk

/-- Two desks agree on what belongs to a user and a phone. -/
structure Agree (user : Int) (phone : String) (d e : Desk) : Prop where
  draft : d.draft.Agree user e.draft
  chat : d.chats.get? phone = e.chats.get? phone
  calls : d.calls = e.calls

variable {user : Int} {phone : String} {d e : Desk}

theorem Agree.ask (h : d.Agree user phone e) (plan : FaultPlan) {q : Query}
    (hq : q.user? = some user ∨ q = .commit ∨ q = .rollback) :
    (d.ask plan q).1 = (e.ask plan q).1 ∧ (d.ask plan q).2.Agree user phone (e.ask plan q).2 := by
  obtain ⟨hanswer, hdraft⟩ := h.draft.perform hq
  have hcalls : q.duty :: d.calls = q.duty :: e.calls := by rw [h.calls]
  unfold Desk.ask Desk.count
  dsimp only
  rw [hcalls]
  split
  · exact ⟨rfl, h.draft, h.chat, rfl⟩
  · exact ⟨hanswer, hdraft, h.chat, rfl⟩

theorem Agree.save (h : d.Agree user phone e) (chat : Chat) :
    (d.save phone chat).Agree user phone (e.save phone chat) := by
  have hcontains : d.chats.contains phone = e.chats.contains phone := by
    unfold Roster.contains
    rw [h.chat]
  unfold Desk.save
  rw [hcontains]
  split
  · refine ⟨h.draft, ?_, h.calls⟩
    show (d.chats.set phone chat).get? phone = (e.chats.set phone chat).get? phone
    rw [Roster.get?_set_self, Roster.get?_set_self]
  · exact h

end Desk

/-- The work asks about one user only, commits or rolls back; it may look at the own chat, and save
any. -/
def Rule.own (user : Int) : Rule where
  asks q := q.user? = some user ∨ q = .commit ∨ q = .rollback
  saves _ := True
  looks := True

theorem Rule.writing_within_own (chat : Chat) : (writing chat).Within (own chat.user) :=
  ⟨fun _ h => .inl h, fun _ _ => trivial, fun _ => trivial⟩

/-- Work for one user runs alike on desks that agree on what belongs to the user. -/
theorem Work.agree_run {α : Type} {fits : α → Prop} {user : Int} {phone : String} {t : Work α}
    (ht : t.Keeps (Rule.own user) fits) (plan : FaultPlan) {d e : Desk} (h : d.Agree user phone e) :
    (t.run plan phone d).1 = (t.run plan phone e).1 ∧
      (t.run plan phone d).2.Agree user phone (t.run plan phone e).2 := by
  induction t generalizing d e with
  | done a => exact ⟨rfl, h⟩
  | fail fault => exact ⟨rfl, h⟩
  | ask q next ih =>
      obtain ⟨hanswer, hafter⟩ := h.ask plan ht.1
      simp only [run]
      rw [hanswer]
      exact ih _ (ht.2 _) hafter
  | look next ih =>
      simp only [run]
      rw [h.chat]
      exact ih _ (ht.2 _) h
  | save chat next ih => exact ih ht.2 (h.save chat)
  | enter chat next ih => exact ht.elim
  | leave next ih => exact ht.elim

end BukuKas
