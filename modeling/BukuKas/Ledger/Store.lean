import BukuKas.Intent
import BukuKas.Ledger.Cash
import BukuKas.Period

/-!
# The ledger

Users, their budget periods, and the rows of recorded money.  Only rows of the kind `expense` count
anywhere.  A row has a number of its own, handed out by a counter, and a place in the order of
recording.

Writes that are not yet committed are kept as data beside the ledger; a reader of the same unit of
work sees the rows with its own writes applied.

## Main results

* `Write.apply_insert`, `mem_apply_delete` : what a write does to the rows.
-/

namespace BukuKas

open Calendar (Date)
open Number (Binary64)

/-- Somebody who may log in. -/
structure User where
  id : Int
  email : String
  name : Option String
  deriving DecidableEq, Repr

/-- The two directions of money. -/
inductive Kind where
  | expense
  | income
  deriving DecidableEq, Repr

/-- A row of the ledger. -/
structure Row where
  /-- The number of the row. -/
  id : Int
  /-- The user to whom it belongs. -/
  user : Int
  item : String
  amount : Cash
  category : String
  date : Date
  kind : Kind
  /-- The place in the order of recording. -/
  created : Int
  deriving DecidableEq

/-- The period of a user. -/
structure UserPeriod where
  user : Int
  active : Bool
  period : Period
  deriving DecidableEq

/-- All that is committed. -/
structure Ledger where
  users : List User := []
  periods : List UserPeriod := []
  /-- The rows in the order in which they were committed. -/
  rows : List Row := []
  /-- The number that the next row gets. -/
  nextId : Int := 1

/-- The committed rows in the order of their numbers. -/
def Ledger.rowsByNumber (l : Ledger) : List Row :=
  l.rows.mergeSort fun a b => decide (a.id ≤ b.id)

/-- A change of the rows that is not yet committed. -/
inductive Write where
  | insert (row : Row)
  | delete (user id : Int)
  deriving DecidableEq

namespace Write

/-- The rows after a write. -/
def apply (rows : List Row) : Write → List Row
  | .insert row => rows ++ [row]
  | .delete user id => rows.filter fun r => !(r.id == id && r.user == user)

/-- The rows after several writes, the first of them first. -/
def applyAll (rows : List Row) (writes : List Write) : List Row :=
  writes.foldl apply rows

@[simp] theorem applyAll_nil (rows : List Row) : applyAll rows [] = rows := rfl

theorem applyAll_append (rows : List Row) (first second : List Write) :
    applyAll rows (first ++ second) = applyAll (applyAll rows first) second :=
  List.foldl_append

@[simp] theorem apply_insert (rows : List Row) (row : Row) :
    apply rows (.insert row) = rows ++ [row] := rfl

theorem mem_apply_delete {rows : List Row} {user id : Int} {r : Row} :
    r ∈ apply rows (.delete user id) ↔ r ∈ rows ∧ ¬(r.id = id ∧ r.user = user) := by
  simp [apply, Decidable.imp_iff_not_or]

end Write

namespace Row

/-- The row as an entry, its amount as a double. -/
def entry (r : Row) : Entry :=
  ⟨r.item, r.amount.toDouble, r.category, r.date⟩

/-- The channel through which all rows come. -/
def source : String := "whatsapp"

/-- Whether the row is an expense of the user. -/
def isExpenseOf (user : Int) (r : Row) : Bool :=
  r.user == user && r.kind == .expense

/-- The row of an expense that is recorded now. -/
def ofEntry (id user : Int) (amount : Cash) (e : Entry) : Row :=
  ⟨id, user, e.item, amount, e.category, e.date, .expense, id⟩

end Row

/-- An entry as it was recorded: its number, and what was given, its amount not yet rounded. -/
structure Recording where
  id : Int
  entry : Entry
  deriving DecidableEq

end BukuKas
