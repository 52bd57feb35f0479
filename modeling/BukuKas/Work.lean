import BukuKas.Ledger.Query
import BukuKas.Roster
import BukuKas.Session.Chat

/-!
# Work

The work that a message causes is written as data: it ends with a value or a fault, or it
asks the ledger or the store of chats something and goes on with the answer.  The ledger may fail
to answer.  What work does is said by running it on a desk; since it is data, it can also be
stopped before a query and taken up again later.

Work belongs to one phone, and touches no chat but that of this phone.

## Main results

* `run_bind`, `run_attempt` : running composed work is running its parts.
-/

namespace BukuKas

/-- The work of one message. -/
inductive Work (α : Type) where
  /-- The end, with a value. -/
  | done (value : α)
  /-- The end, with a fault. -/
  | fail (fault : Fault)
  /-- A query to the ledger, and what follows its answer. -/
  | ask (query : Query) (next : Except Fault query.Answer → Work α)
  /-- A look at the own chat, if there is one. -/
  | look (next : Option Chat → Work α)
  /-- A change of the own chat.  A chat that was ended in the meantime stays ended. -/
  | save (chat : Chat) (next : Work α)
  /-- The beginning of a chat, in place of the own one. -/
  | enter (chat : Chat) (next : Work α)
  /-- The end of the own chat. -/
  | leave (next : Work α)

namespace Work

/-- One piece of work after the other. -/
def bind {α β : Type} : Work α → (α → Work β) → Work β
  | .done a, f => f a
  | .fail fault, _ => .fail fault
  | .ask q next, f => .ask q fun answer => (next answer).bind f
  | .look next, f => .look fun chat => (next chat).bind f
  | .save chat next, f => .save chat (next.bind f)
  | .enter chat next, f => .enter chat (next.bind f)
  | .leave next, f => .leave (next.bind f)

instance : Monad Work where
  pure := .done
  bind := bind

@[simp] theorem pure_eq_done {α : Type} (a : α) : (pure a : Work α) = .done a := rfl

@[simp] theorem done_bind {α β : Type} (a : α) (f : α → Work β) : (Work.done a >>= f) = f a := rfl

@[simp] theorem fail_bind {α β : Type} (fault : Fault) (f : α → Work β) :
    (Work.fail fault >>= f) = .fail fault := rfl

theorem bind_done {α : Type} (t : Work α) : t.bind .done = t := by
  induction t with
  | done a => rfl
  | fail fault => rfl
  | ask q next ih => simp only [bind, ih]
  | look next ih => simp only [bind, ih]
  | save chat next ih => simp only [bind, ih]
  | enter chat next ih => simp only [bind, ih]
  | leave next ih => simp only [bind, ih]

theorem bind_assoc {α β γ : Type} (t : Work α) (f : α → Work β) (g : β → Work γ) :
    (t.bind f).bind g = t.bind fun a => (f a).bind g := by
  induction t with
  | done a => rfl
  | fail fault => rfl
  | ask q next ih => simp only [bind, ih]
  | look next ih => simp only [bind, ih]
  | save chat next ih => simp only [bind, ih]
  | enter chat next ih => simp only [bind, ih]
  | leave next ih => simp only [bind, ih]

instance : LawfulMonad Work :=
  LawfulMonad.mk' Work (fun t => bind_done t) (fun _ _ => rfl) bind_assoc

/-- The work that does not fail, and gives the fault as its value. -/
def attempt {α : Type} : Work α → Work (Except Fault α)
  | .done a => .done (.ok a)
  | .fail fault => .done (.error fault)
  | .ask q next => .ask q fun answer => (next answer).attempt
  | .look next => .look fun chat => (next chat).attempt
  | .save chat next => .save chat next.attempt
  | .enter chat next => .enter chat next.attempt
  | .leave next => .leave next.attempt

/-- The answer to a query. -/
def query (q : Query) : Work q.Answer :=
  .ask q fun
    | .ok answer => .done answer
    | .error fault => .fail fault

/-- The own chat. -/
def chat? : Work (Option Chat) := .look .done

/-- Changes the own chat. -/
def put (chat : Chat) : Work Unit := .save chat (.done ())

/-- A value, or the fault in its place. -/
def ofExcept {α : Type} : Except Fault α → Work α
  | .ok a => .done a
  | .error fault => .fail fault

end Work

/-- Which calls fail: for each duty the number of a call, counted from one in a unit of work. -/
abbrev FaultPlan := Duty → Nat → Bool

namespace FaultPlan

/-- No call fails. -/
def none : FaultPlan := fun _ _ => false

end FaultPlan

/-- What outlives every unit of work: the ledger and the chats. -/
structure Service where
  ledger : Ledger := {}
  /-- The chats under the phones that hold them, in the order of their first login. -/
  chats : Roster Chat := Roster.empty

/-- Where work is run: the ledger with the writes of the unit of work, the chats, and the calls
that were made, the latest first. -/
structure Desk where
  draft : Draft
  chats : Roster Chat
  calls : List Duty := []

namespace Desk

/-- How often a duty was called. -/
def count (d : Desk) (duty : Duty) : Nat := d.calls.count duty

/-- The answer of the ledger to one query of a unit of work, a call that the plan lets fail doing
nothing. -/
def ask (plan : FaultPlan) (d : Desk) (q : Query) : Except Fault q.Answer × Desk :=
  let called := { d with calls := q.duty :: d.calls }
  if plan q.duty (called.count q.duty) then (.error (.outOfOrder q.duty), called)
  else
    let (answer, draft) := d.draft.perform q
    (answer, { called with draft := draft })

/-- Changes the chat of a phone, when there is one. -/
def save (d : Desk) (phone : String) (chat : Chat) : Desk :=
  if d.chats.contains phone then { d with chats := d.chats.set phone chat } else d

/-- Begins a chat. -/
def enter (d : Desk) (phone : String) (chat : Chat) : Desk :=
  { d with chats := d.chats.set phone chat }

/-- Ends a chat. -/
def leave (d : Desk) (phone : String) : Desk := { d with chats := d.chats.erase phone }

/-- What outlives the unit of work: what was not committed is lost. -/
def service (d : Desk) : Service := { ledger := d.draft.ledger, chats := d.chats }

end Desk

/-- The desk at which a unit of work begins: nothing is written and no call is made yet. -/
def Service.desk (s : Service) : Desk := { draft := { ledger := s.ledger }, chats := s.chats }

@[simp] theorem Service.service_desk (s : Service) : s.desk.service = s := rfl

/-- The service after it was shut down: all chats are ended, and the ledger stays. -/
def Service.shutDown (s : Service) : Service := { s with chats := Roster.empty }

namespace Work

variable {α β : Type}

/-- Runs work to its end. -/
def run (plan : FaultPlan) (phone : String) : Work α → Desk → Except Fault α × Desk
  | .done a, d => (.ok a, d)
  | .fail fault, d => (.error fault, d)
  | .ask q next, d => (next (d.ask plan q).1).run plan phone (d.ask plan q).2
  | .look next, d => (next (d.chats.get? phone)).run plan phone d
  | .save chat next, d => next.run plan phone (d.save phone chat)
  | .enter chat next, d => next.run plan phone (d.enter phone chat)
  | .leave next, d => next.run plan phone (d.leave phone)

/-- Runs work up to its first call of a duty, and gives what is left of it. -/
def runUntil (plan : FaultPlan) (phone : String) (hold : Duty) : Work α → Desk → Work α × Desk
  | .done a, d => (.done a, d)
  | .fail fault, d => (.fail fault, d)
  | .ask q next, d =>
    if q.duty = hold then (.ask q next, d)
    else (next (d.ask plan q).1).runUntil plan phone hold (d.ask plan q).2
  | .look next, d => (next (d.chats.get? phone)).runUntil plan phone hold d
  | .save chat next, d => next.runUntil plan phone hold (d.save phone chat)
  | .enter chat next, d => next.runUntil plan phone hold (d.enter phone chat)
  | .leave next, d => next.runUntil plan phone hold (d.leave phone)

theorem run_bind (plan : FaultPlan) (phone : String) (t : Work α) (f : α → Work β) (d : Desk) :
    (t.bind f).run plan phone d =
      match t.run plan phone d with
      | (.ok a, after) => (f a).run plan phone after
      | (.error fault, after) => (.error fault, after) := by
  induction t generalizing d with
  | done a => rfl
  | fail fault => rfl
  | ask q next ih => simp only [bind, run]; exact ih _ _
  | look next ih => simp only [bind, run]; exact ih _ _
  | save chat next ih => simp only [bind, run]; exact ih _
  | enter chat next ih => simp only [bind, run]; exact ih _
  | leave next ih => simp only [bind, run]; exact ih _

theorem run_attempt (plan : FaultPlan) (phone : String) (t : Work α) (d : Desk) :
    t.attempt.run plan phone d = (.ok (t.run plan phone d).1, (t.run plan phone d).2) := by
  induction t generalizing d with
  | done a => rfl
  | fail fault => rfl
  | ask q next ih => simp only [attempt, run]; exact ih _ _
  | look next ih => simp only [attempt, run]; exact ih _ _
  | save chat next ih => simp only [attempt, run]; exact ih _
  | enter chat next ih => simp only [attempt, run]; exact ih _
  | leave next ih => simp only [attempt, run]; exact ih _

/-- Stopping work and taking it up again is running it. -/
theorem run_runUntil (plan : FaultPlan) (phone : String) (hold : Duty) (t : Work α) (d : Desk) :
    (t.runUntil plan phone hold d).1.run plan phone (t.runUntil plan phone hold d).2 =
      t.run plan phone d := by
  induction t generalizing d with
  | done a => rfl
  | fail fault => rfl
  | ask q next ih =>
    simp only [runUntil]
    split
    · rfl
    · simp only [run]; exact ih _ _
  | look next ih => simp only [runUntil, run]; exact ih _ _
  | save chat next ih => simp only [runUntil, run]; exact ih _
  | enter chat next ih => simp only [runUntil, run]; exact ih _
  | leave next ih => simp only [runUntil, run]; exact ih _

end Work

end BukuKas
