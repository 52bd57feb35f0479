import BukuKas.Calendar.Date
import BukuKas.Number.Binary64

/-!
# What a message asks for

The closed list of intents.  An entry is an expense that a message records; everything else asks
for a report, changes the reminders or the alert, or takes a recording back.
-/

namespace BukuKas

/-- An expense as a message records it. -/
structure Entry where
  /-- What was bought. -/
  item : String
  /-- What it cost. -/
  amount : Number.Binary64
  /-- The name of its category. -/
  category : String
  /-- The day on which it is booked. -/
  date : Calendar.Date
  deriving DecidableEq

/-- What a message asks for. -/
inductive Intent where
  | add (entry : Entry)
  | addMany (entries : List Entry)
  | remaining
  | spending
  | today
  | weekly
  | undo
  | delete (index : Int)
  | categories
  | listReminders
  | addReminder (name : String) (day : Int)
  | deleteReminder (index : Int)
  | comparison
  | prediction
  | recap
  | challenge
  | health
  | mood
  | tip
  | setAlert (enabled : Bool)
  | help
  | unknown (text : String)
  deriving DecidableEq

namespace Intent

/-- The sum of several entries, from the first to the last. -/
def total (entries : List Entry) : Number.Binary64 :=
  Number.Binary64.sum (entries.map Entry.amount)

/-- Whether the intent records expenses. -/
def records : Intent → Bool
  | .add _ => true
  | .addMany _ => true
  | _ => false

/-- The entries that an intent records. -/
def entries : Intent → List Entry
  | .add entry => [entry]
  | .addMany entries => entries
  | _ => []

theorem entries_eq_nil_of_not_records {i : Intent} (h : i.records = false) : i.entries = [] := by
  cases i <;> simp_all [records, entries]

end Intent

end BukuKas
