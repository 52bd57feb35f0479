import BukuKas.Ledger.Store
import BukuKas.Report.Tally
import BukuKas.Text.Blank
import BukuKas.Text.Case

/-!
# What can be read from the ledger

The expenses of a user in a span of days, one by one or added up: as one sum, per category, or per
day.  Sums are exact, and rounded to a double at the end.

## Main results

* `mem_expenses_iff` : which rows count.
* `expenses_append` : a span of rows is read part by part.
-/

namespace BukuKas.Ledger

open Calendar (Date)
open Number (Binary64)
open Report (Tally)

/-- The expenses of a user from a first to a last day, in the order of the rows. -/
def expenses (rows : List Row) (user : Int) (start stop : Date) : List Row :=
  rows.filter fun r => r.isExpenseOf user && r.date.within start stop

theorem mem_expenses_iff {rows : List Row} {user : Int} {start stop : Date} {r : Row} :
    r ∈ expenses rows user start stop ↔
      r ∈ rows ∧ (r.user = user ∧ r.kind = .expense) ∧ start ≤ r.date ∧ r.date ≤ stop := by
  simp [expenses, Row.isExpenseOf, Date.within, and_assoc]

theorem expenses_append (xs ys : List Row) (user : Int) (start stop : Date) :
    expenses (xs ++ ys) user start stop = expenses xs user start stop ++
      expenses ys user start stop := by
  simp [expenses]

/-- The exact sum of rows. -/
def cashOf (rows : List Row) : Cash := Cash.total (rows.map Row.amount)

/-- The sum of the expenses in a span. -/
def sumExpenses (rows : List Row) (user : Int) (start stop : Date) : Binary64 :=
  (cashOf (expenses rows user start stop)).toDouble

/-- Whether the first row is listed before the second in a report: by date, then by recording. -/
def earlier (a b : Row) : Bool :=
  decide (a.date < b.date) || (a.date == b.date && decide (a.created ≤ b.created))

/-- The expenses in a span, by date and then by recording. -/
def listExpenses (rows : List Row) (user : Int) (start stop : Date) : List Row :=
  (expenses rows user start stop).mergeSort earlier

/-- Whether the first row is listed before the second in the list of a day: the later recording
first. -/
def later (a b : Row) : Bool :=
  decide (b.created < a.created) || (a.created == b.created && decide (b.id ≤ a.id))

/-- The expenses of a day, the latest recording first. -/
def listDay (rows : List Row) (user : Int) (day : Date) : List Row :=
  (expenses rows user day day).mergeSort later

/-- Adds an amount to the sum of a key, at the end when the key is new. -/
def addTo {κ : Type} [DecidableEq κ] (key : κ) (amount : Cash) : List (κ × Cash) → List (κ × Cash)
  | [] => [(key, amount)]
  | (other, sum) :: rest =>
    if other = key then (other, sum + amount) :: rest else (other, sum) :: addTo key amount rest

/-- The exact sums of rows per key, the keys in the order in which they first come. -/
def groupBy {κ : Type} [DecidableEq κ] (key : Row → κ) (rows : List Row) : List (κ × Cash) :=
  rows.foldl (fun sums r => addTo (key r) r.amount sums) []

/-- The sums of the expenses in a span per category, the largest first. -/
def categoryTotals (rows : List Row) (user : Int) (start stop : Date) : Tally :=
  ((groupBy Row.category (expenses rows user start stop)).mergeSort fun a b => b.2.le a.2).map
    fun sum => (sum.1, sum.2.toDouble)

/-- The sums of the expenses in a span per day, by date. -/
def dailyTotals (rows : List Row) (user : Int) (start stop : Date) : List (Date × Binary64) :=
  ((groupBy Row.date (expenses rows user start stop)).mergeSort fun a b => decide (a.1 ≤ b.1)).map
    fun sum => (sum.1, sum.2.toDouble)

/-- The amounts of all expenses of a user. -/
def amounts (rows : List Row) (user : Int) : List Binary64 :=
  (rows.filter (Row.isExpenseOf user)).map fun r => r.amount.toDouble

/-- The active period of a user that begins last, the first one of several that begin together. -/
def activePeriod (periods : List UserPeriod) (user : Int) : Option Period :=
  let own := (periods.filter fun p => p.user == user && p.active).map UserPeriod.period
  own.foldl (fun best p =>
    match best with
    | none => some p
    | some b => if b.start < p.start then some p else some b) none

/-- The user with that address, case and white space around it set aside. -/
def userByEmail (users : List User) (email : String) : Option User :=
  let wanted := Text.lower (Text.trim email.toList)
  users.find? fun u => Text.lower u.email.toList == wanted

end BukuKas.Ledger
