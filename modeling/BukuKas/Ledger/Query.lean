import BukuKas.Fault
import BukuKas.Ledger.View

/-!
# The work of the ledger

Everything that can be asked of the ledger, with the kind of answer that each question has, and how
a unit of work answers it.  Reading sees the committed rows with the own writes applied; a commit
makes the own writes part of the ledger, a rollback forgets them.  The counter of row numbers goes
on with every attempt to record, also with one that is refused.

## Main results

* `perform_rows_of_ne_commit` : nothing but a commit changes the committed rows.
* `nextId_le_perform` : the counter never goes back.
-/

namespace BukuKas

open Calendar (Date)
open Number (Binary64)
open Report (Tally)

/-- A question to the ledger, or an order. -/
inductive Query where
  | findUser (email : String)
  | insert (user : Int) (entry : Entry)
  | delete (user id : Int)
  | sumExpenses (user : Int) (start stop : Date)
  | listTransactions (user : Int) (start stop : Date)
  | listToday (user : Int) (day : Date)
  | activePeriod (user : Int)
  | categoryTotals (user : Int) (start stop : Date)
  | dailyTotals (user : Int) (start stop : Date)
  | expenseAmounts (user : Int)
  | commit
  | rollback
  deriving DecidableEq

namespace Query

/-- What kind of answer a query has. -/
def Answer : Query → Type
  | .findUser _ => Option User
  | .insert _ _ => Recording
  | .delete _ _ => Bool
  | .sumExpenses _ _ _ => Binary64
  | .listTransactions _ _ _ => List Row
  | .listToday _ _ => List Row
  | .activePeriod _ => Option Period
  | .categoryTotals _ _ _ => Tally
  | .dailyTotals _ _ _ => List (Date × Binary64)
  | .expenseAmounts _ => List Binary64
  | .commit => Unit
  | .rollback => Unit

/-- The duty to which a query belongs. -/
def duty : Query → Duty
  | .findUser _ => .findUser
  | .insert _ _ => .insert
  | .delete _ _ => .delete
  | .sumExpenses _ _ _ => .sumExpenses
  | .listTransactions _ _ _ => .listTransactions
  | .listToday _ _ => .listToday
  | .activePeriod _ => .activePeriod
  | .categoryTotals _ _ _ => .categoryTotals
  | .dailyTotals _ _ _ => .dailyTotals
  | .expenseAmounts _ => .expenseAmounts
  | .commit => .commit
  | .rollback => .rollback

end Query

/-- A ledger, and the writes of one unit of work on it. -/
structure Draft where
  ledger : Ledger
  /-- The writes that are not yet committed, the first one first. -/
  writes : List Write := []

namespace Draft

/-- The rows as the unit of work sees them. -/
def rows (d : Draft) : List Row := Write.applyAll d.ledger.rows d.writes

/-- The draft with the writes made part of the ledger. -/
def commit (d : Draft) : Draft :=
  { ledger := { d.ledger with rows := d.rows }, writes := [] }

/-- The draft without its writes. -/
def rollback (d : Draft) : Draft := { d with writes := [] }

/-- Records an entry under the next number, which is used up in any case. -/
def insert (d : Draft) (user : Int) (entry : Entry) : Except Fault Recording × Draft :=
  let id := d.ledger.nextId
  let ledger := { d.ledger with nextId := id + 1 }
  match Cash.ofDouble? entry.amount with
  | none => (.error .rowRefused, { d with ledger := ledger })
  | some amount =>
    let row := Row.ofEntry id user amount entry
    (.ok ⟨id, entry⟩, { ledger := ledger, writes := d.writes ++ [.insert row] })

/-- Removes a row of the user, and says whether there was one. -/
def delete (d : Draft) (user id : Int) : Bool × Draft :=
  if d.rows.any fun r => r.id == id && r.user == user then
    (true, { d with writes := d.writes ++ [.delete user id] })
  else (false, d)

/-- The answer to a query, and the draft after it. -/
def perform (d : Draft) : (q : Query) → Except Fault q.Answer × Draft
  | .findUser email => (.ok (Ledger.userByEmail d.ledger.users email), d)
  | .insert user entry => d.insert user entry
  | .delete user id => ((.ok (d.delete user id).1 : Except Fault Bool), (d.delete user id).2)
  | .sumExpenses user start stop => (.ok (Ledger.sumExpenses d.rows user start stop), d)
  | .listTransactions user start stop => (.ok (Ledger.listExpenses d.rows user start stop), d)
  | .listToday user day => (.ok (Ledger.listDay d.rows user day), d)
  | .activePeriod user => (.ok (Ledger.activePeriod d.ledger.periods user), d)
  | .categoryTotals user start stop => (.ok (Ledger.categoryTotals d.rows user start stop), d)
  | .dailyTotals user start stop => (.ok (Ledger.dailyTotals d.rows user start stop), d)
  | .expenseAmounts user => (.ok (Ledger.amounts d.rows user), d)
  | .commit => (.ok (), d.commit)
  | .rollback => (.ok (), d.rollback)

@[simp] theorem rows_rollback (d : Draft) : d.rollback.rows = d.ledger.rows := rfl

@[simp] theorem rows_commit (d : Draft) : d.commit.rows = d.rows := rfl

/-- Nothing but a commit changes the committed rows. -/
theorem perform_rows_of_ne_commit (d : Draft) {q : Query} (h : q ≠ .commit) :
    (d.perform q).2.ledger.rows = d.ledger.rows := by
  cases q <;> simp_all [perform, insert, delete, rollback] <;> split <;> rfl

/-- The counter of row numbers never goes back. -/
theorem nextId_le_perform (d : Draft) (q : Query) :
    d.ledger.nextId ≤ (d.perform q).2.ledger.nextId := by
  cases q with
  | insert user entry =>
    simp only [perform, insert]
    split <;> exact Int.le_add_one (Int.le_refl _)
  | delete user id =>
    simp only [perform, delete]
    split <;> exact Int.le_refl _
  | _ => exact Int.le_refl _

end Draft

end BukuKas
