import BukuKas.Proofs.Renumbering.Ledger
import BukuKas.Proofs.Work.Rule

/-!
# Renumbered work

Two pieces of work mirror each other under a renumbering when they do the same with other numbers:
the second one asks the changed query where the first one asks a query, goes on in the same way with
the changed answer, saves the changed chat, and ends with the changed value.  Run on desks that
differ by the renumbering, they come to the same result, up to the numbers, and the desks differ by
the renumbering afterwards.

## Main results

* `Work.Mirrors.bind`, `Work.Mirrors.attempt` : composed work mirrors when its parts do.
* `Work.mirrors_self` : work that only asks for sums mirrors itself.
* `Work.mirrors_run` : runs of work that mirrors.
-/

namespace BukuKas

variable {base : Int} {g : Renumbering base}

/-! ## Work -/

/-- The second work does what the first one does with other numbers. -/
inductive Work.Mirrors (g : Renumbering base) {α β : Type} (f : α → β) :
    Work α → Work β → Prop where
  | done (a : α) : Mirrors g f (.done a) (.done (f a))
  | fail (fault : Fault) : Mirrors g f (.fail fault) (.fail fault)
  | ask (q : Query) {next : Except Fault q.Answer → Work α}
      {next' : Except Fault (g.query q).Answer → Work β}
      (h : ∀ answer, Mirrors g f (next answer) (next' (answer.map (g.answer q)))) :
      Mirrors g f (.ask q next) (.ask (g.query q) next')
  | look {next : Option Chat → Work α} {next' : Option Chat → Work β}
      (h : ∀ chat, Mirrors g f (next chat) (next' (chat.map g.chat))) :
      Mirrors g f (.look next) (.look next')
  | save (chat : Chat) {next : Work α} {next' : Work β} (h : Mirrors g f next next') :
      Mirrors g f (.save chat next) (.save (g.chat chat) next')
  | enter (chat : Chat) {next : Work α} {next' : Work β} (h : Mirrors g f next next') :
      Mirrors g f (.enter chat next) (.enter (g.chat chat) next')
  | leave {next : Work α} {next' : Work β} (h : Mirrors g f next next') :
      Mirrors g f (.leave next) (.leave next')

namespace Work

variable {α β γ δ : Type} {f : α → β} {f' : γ → δ}

theorem Mirrors.bind {t : Work α} {u : Work β} {k : α → Work γ} {k' : β → Work δ}
    (ht : t.Mirrors g f u) (hk : ∀ a, (k a).Mirrors g f' (k' (f a))) :
    (t >>= k).Mirrors g f' (u >>= k') := by
  show (t.bind k).Mirrors g f' (u.bind k')
  induction ht with
  | done a => exact hk a
  | fail fault => exact .fail fault
  | ask q _ ih => exact .ask q ih
  | look _ ih => exact .look ih
  | save chat _ ih => exact .save chat ih
  | enter chat _ ih => exact .enter chat ih
  | leave _ ih => exact .leave ih

theorem Mirrors.attempt {t : Work α} {u : Work β} (ht : t.Mirrors g f u) :
    t.attempt.Mirrors g (Except.map f) u.attempt := by
  induction ht with
  | done a => exact .done (Except.ok a)
  | fail fault => exact .done (Except.error fault)
  | ask q _ ih => exact .ask q ih
  | look _ ih => exact .look ih
  | save chat _ ih => exact .save chat ih
  | enter chat _ ih => exact .enter chat ih
  | leave _ ih => exact .leave ih

theorem mirrors_query (g : Renumbering base) (q : Query) :
    (query q).Mirrors g (g.answer q) (query (g.query q)) := by
  refine .ask q fun answer => ?_
  cases answer with
  | ok a => exact .done a
  | error fault => exact .fail fault

theorem mirrors_put (g : Renumbering base) (chat : Chat) :
    (put chat).Mirrors g id (put (g.chat chat)) :=
  .save chat (.done ())

theorem mirrors_chat? (g : Renumbering base) : chat?.Mirrors g (Option.map g.chat) chat? :=
  .look fun chat => .done chat

theorem mirrors_ofExcept (g : Renumbering base) (result : Except Fault α) :
    (ofExcept result).Mirrors g id (ofExcept result) := by
  cases result with
  | ok a => exact .done a
  | error fault => exact .fail fault

/-- A query for a sum has no number, and neither has its answer. -/
theorem mirrors_ask_of_sums {q : Query} {next next' : Except Fault q.Answer → Work α}
    (hreads : q.reads = true) (hlists : q.lists = false)
    (h : ∀ answer, (next answer).Mirrors g id (next' answer)) :
    (Work.ask q next).Mirrors g id (.ask q next') := by
  cases q with
  | insert _ _ | delete _ _ | commit | rollback => simp [Query.reads] at hreads
  | listTransactions _ _ _ | listToday _ _ => simp [Query.lists] at hlists
  | findUser email => exact .ask (.findUser email) fun answer => by cases answer <;> exact h _
  | sumExpenses user start stop =>
      exact .ask (.sumExpenses user start stop) fun answer => by cases answer <;> exact h _
  | activePeriod user => exact .ask (.activePeriod user) fun answer => by cases answer <;> exact h _
  | categoryTotals user start stop =>
      exact .ask (.categoryTotals user start stop) fun answer => by cases answer <;> exact h _
  | dailyTotals user start stop =>
      exact .ask (.dailyTotals user start stop) fun answer => by cases answer <;> exact h _
  | expenseAmounts user =>
      exact .ask (.expenseAmounts user) fun answer => by cases answer <;> exact h _

/-- Work that only asks for sums mirrors itself. -/
theorem mirrors_self {fits : α → Prop} {user : Int} {t : Work α} (g : Renumbering base)
    (h : t.Keeps (Rule.sums user) fits) : t.Mirrors g id t := by
  induction t with
  | done a => exact .done a
  | fail fault => exact .fail fault
  | ask q next ih =>
      exact mirrors_ask_of_sums h.1.2.1 h.1.2.2 fun answer => ih answer (h.2 answer)
  | look next ih => exact h.1.elim
  | save chat next ih => exact h.1.elim
  | enter chat next ih => exact h.elim
  | leave next ih => exact h.elim

/-! ### Queries and what follows them -/

section Queries

theorem Mirrors.query_of_sums {q : Query} {k k' : q.Answer → Work γ} {f' : γ → γ}
    (hreads : q.reads = true) (hlists : q.lists = false) (h : ∀ a, (k a).Mirrors g f' (k' a)) :
    (query q >>= k).Mirrors g f' (query q >>= k') := by
  refine Mirrors.bind (f := id) (mirrors_ask_of_sums hreads hlists fun answer => ?_) h
  cases answer with
  | ok a => exact .done a
  | error fault => exact .fail fault

theorem Mirrors.query_listToday {k k' : List Row → Work γ} {f' : γ → γ} (user : Int)
    (day : Calendar.Date) (h : ∀ rows, (k rows).Mirrors g f' (k' (rows.map g.row))) :
    (query (.listToday user day) >>= k).Mirrors g f' (query (.listToday user day) >>= k') :=
  Mirrors.bind (mirrors_query g (.listToday user day)) h

theorem Mirrors.query_listTransactions {k k' : List Row → Work γ} {f' : γ → γ} (user : Int)
    (start stop : Calendar.Date) (h : ∀ rows, (k rows).Mirrors g f' (k' (rows.map g.row))) :
    (query (.listTransactions user start stop) >>= k).Mirrors g f'
      (query (.listTransactions user start stop) >>= k') :=
  Mirrors.bind (mirrors_query g (.listTransactions user start stop)) h

theorem Mirrors.query_insert {k k' : Recording → Work γ} {f' : γ → γ} (user : Int) (entry : Entry)
    (h : ∀ recording : Recording,
      (k recording).Mirrors g f' (k' { recording with id := g.number recording.id })) :
    (query (.insert user entry) >>= k).Mirrors g f' (query (.insert user entry) >>= k') :=
  Mirrors.bind (mirrors_query g (.insert user entry)) h

theorem Mirrors.query_delete {k k' : Bool → Work γ} {f' : γ → γ} (user id : Int)
    (h : ∀ removed, (k removed).Mirrors g f' (k' removed)) :
    (query (.delete user id) >>= k).Mirrors g f' (query (.delete user (g.number id)) >>= k') :=
  Mirrors.bind (mirrors_query g (.delete user id)) h

end Queries

end Work

/-! ## Ledgers and desks -/

/-- The second ledger is the first one with its numbers changed.  The numbers that both will hand
out from now on differ by a constant. -/
structure Ledger.Renumbered (g : Renumbering base) (l k : Ledger) : Prop where
  users : k.users = l.users
  periods : k.periods = l.periods
  rows : k.rows = l.rows.map g.row
  next : ∀ n, l.nextId ≤ n → g.number n = n + (k.nextId - l.nextId)

/-- The second draft is the first one with its numbers changed. -/
structure Draft.Renumbered (g : Renumbering base) (d e : Draft) : Prop where
  ledger : d.ledger.Renumbered g e.ledger
  writes : e.writes = d.writes.map g.write

namespace Draft

variable {d e : Draft}

theorem Renumbered.rows (h : d.Renumbered g e) : e.rows = d.rows.map g.row := by
  unfold Draft.rows
  rw [h.ledger.rows, h.writes, applyAll_renumbered]

/-- The next number is changed to the next number. -/
theorem Renumbered.nextId (h : d.Renumbered g e) : g.number d.ledger.nextId = e.ledger.nextId := by
  have hnext := h.ledger.next d.ledger.nextId (Int.le_refl _)
  omega

theorem Renumbered.insert (h : d.Renumbered g e) (user : Int) (entry : Entry) :
    (e.insert user entry).1 = (d.insert user entry).1.map (g.answer (.insert user entry)) ∧
      (d.insert user entry).2.Renumbered g (e.insert user entry).2 := by
  have hledger : ({ d.ledger with nextId := d.ledger.nextId + 1 } : Ledger).Renumbered g
      { e.ledger with nextId := e.ledger.nextId + 1 } := by
    refine ⟨h.ledger.users, h.ledger.periods, h.ledger.rows, fun n hn => ?_⟩
    dsimp only at hn ⊢
    have hnext := h.ledger.next n (by omega)
    omega
  unfold Draft.insert
  cases Cash.ofDouble? entry.amount with
  | none => exact ⟨rfl, hledger, h.writes⟩
  | some amount =>
      refine ⟨?_, hledger, ?_⟩
      · show Except.ok (Recording.mk e.ledger.nextId entry) =
          Except.ok (Recording.mk (g.number d.ledger.nextId) entry)
        rw [h.nextId]
      · show e.writes ++ [Write.insert (Row.ofEntry e.ledger.nextId user amount entry)] =
          (d.writes ++ [Write.insert (Row.ofEntry d.ledger.nextId user amount entry)]).map g.write
        rw [List.map_append, h.writes, ← h.nextId]
        rfl

theorem Renumbered.delete (h : d.Renumbered g e) (user id : Int) :
    (e.delete user (g.number id)).1 = (d.delete user id).1 ∧
      (d.delete user id).2.Renumbered g (e.delete user (g.number id)).2 := by
  have hany : (e.rows.any fun r => r.id == g.number id && r.user == user) =
      d.rows.any fun r => r.id == id && r.user == user := by
    rw [h.rows, any_renumbered]
  unfold Draft.delete
  rw [hany]
  split
  · refine ⟨rfl, h.ledger, ?_⟩
    show e.writes ++ [Write.delete user (g.number id)] =
      (d.writes ++ [Write.delete user id]).map g.write
    rw [List.map_append, h.writes]
    rfl
  · exact ⟨rfl, h⟩

/-- Every query is answered by the changed answer. -/
theorem Renumbered.perform (h : d.Renumbered g e) (q : Query) :
    (e.perform (g.query q)).1 = (d.perform q).1.map (g.answer q) ∧
      (d.perform q).2.Renumbered g (e.perform (g.query q)).2 := by
  cases q with
  | findUser email =>
      refine ⟨?_, h⟩
      show Except.ok (Ledger.userByEmail e.ledger.users email) =
        Except.ok (Ledger.userByEmail d.ledger.users email)
      rw [h.ledger.users]
  | insert user entry => exact h.insert user entry
  | delete user id =>
      obtain ⟨hanswer, hafter⟩ := h.delete user id
      exact ⟨congrArg Except.ok hanswer, hafter⟩
  | sumExpenses user start stop =>
      refine ⟨congrArg Except.ok ?_, h⟩
      rw [h.rows, Ledger.sumExpenses_renumbered]
      rfl
  | listTransactions user start stop =>
      refine ⟨congrArg Except.ok ?_, h⟩
      rw [h.rows, Ledger.listExpenses_renumbered]
      rfl
  | listToday user day =>
      refine ⟨congrArg Except.ok ?_, h⟩
      rw [h.rows, Ledger.listDay_renumbered]
      rfl
  | activePeriod user =>
      refine ⟨congrArg Except.ok ?_, h⟩
      rw [h.ledger.periods]
      rfl
  | categoryTotals user start stop =>
      refine ⟨congrArg Except.ok ?_, h⟩
      rw [h.rows, Ledger.categoryTotals_renumbered]
      rfl
  | dailyTotals user start stop =>
      refine ⟨congrArg Except.ok ?_, h⟩
      rw [h.rows, Ledger.dailyTotals_renumbered]
      rfl
  | expenseAmounts user =>
      refine ⟨congrArg Except.ok ?_, h⟩
      rw [h.rows, Ledger.amounts_renumbered]
      rfl
  | commit => exact ⟨rfl, ⟨h.ledger.users, h.ledger.periods, h.rows, h.ledger.next⟩, rfl⟩
  | rollback => exact ⟨rfl, h.ledger, rfl⟩

end Draft

/-- The second desk is the first one with its numbers changed. -/
structure Desk.Renumbered (g : Renumbering base) (d e : Desk) : Prop where
  draft : d.draft.Renumbered g e.draft
  chats : e.chats = d.chats.mapValues g.chat
  calls : e.calls = d.calls

namespace Desk

variable {d e : Desk}

theorem Renumbered.get? (h : d.Renumbered g e) (phone : String) :
    e.chats.get? phone = (d.chats.get? phone).map g.chat := by
  rw [h.chats, Roster.get?_mapValues]

theorem Renumbered.ask (h : d.Renumbered g e) (plan : FaultPlan) (q : Query) :
    (e.ask plan (g.query q)).1 = (d.ask plan q).1.map (g.answer q) ∧
      (d.ask plan q).2.Renumbered g (e.ask plan (g.query q)).2 := by
  obtain ⟨hanswer, hdraft⟩ := h.draft.perform q
  unfold Desk.ask Desk.count
  simp only [Renumbering.duty_query, h.calls]
  split
  · exact ⟨rfl, h.draft, h.chats, rfl⟩
  · exact ⟨hanswer, hdraft, h.chats, rfl⟩

theorem Renumbered.enter (h : d.Renumbered g e) (phone : String) (chat : Chat) :
    (d.enter phone chat).Renumbered g (e.enter phone (g.chat chat)) := by
  refine ⟨h.draft, ?_, h.calls⟩
  show e.chats.set phone (g.chat chat) = (d.chats.set phone chat).mapValues g.chat
  rw [h.chats, Roster.set_mapValues]

theorem Renumbered.save (h : d.Renumbered g e) (phone : String) (chat : Chat) :
    (d.save phone chat).Renumbered g (e.save phone (g.chat chat)) := by
  have hcontains : e.chats.contains phone = d.chats.contains phone := by
    rw [h.chats, Roster.contains_mapValues]
  unfold Desk.save
  rw [hcontains]
  split
  · exact h.enter phone chat
  · exact h

theorem Renumbered.leave (h : d.Renumbered g e) (phone : String) :
    (d.leave phone).Renumbered g (e.leave phone) := by
  refine ⟨h.draft, ?_, h.calls⟩
  show e.chats.erase phone = (d.chats.erase phone).mapValues g.chat
  rw [h.chats, Roster.erase_mapValues]

end Desk

/-- Work that mirrors other work comes to the changed result, on a desk with changed numbers. -/
theorem Work.mirrors_run {α β : Type} {f : α → β} {t : Work α} {u : Work β} (ht : t.Mirrors g f u)
    (plan : FaultPlan) (phone : String) {d e : Desk} (h : d.Renumbered g e) :
    (u.run plan phone e).1 = (t.run plan phone d).1.map f ∧
      (t.run plan phone d).2.Renumbered g (u.run plan phone e).2 := by
  induction ht generalizing d e with
  | done a => exact ⟨rfl, h⟩
  | fail fault => exact ⟨rfl, h⟩
  | ask q _ ih =>
      obtain ⟨hanswer, hafter⟩ := h.ask plan q
      simp only [run]
      rw [hanswer]
      exact ih _ hafter
  | look _ ih =>
      simp only [run]
      rw [h.get? phone]
      exact ih _ h
  | save chat _ ih => exact ih (h.save phone chat)
  | enter chat _ ih => exact ih (h.enter phone chat)
  | leave _ ih => exact ih (h.leave phone)

end BukuKas
