import BukuKas.Alert
import BukuKas.Report.Attachment
import BukuKas.Reply.Text
import BukuKas.Score.Experience
import BukuKas.Work

/-!
# Replies

What an intent is answered with, the circumstances that the answer depends on, and the pieces that
several answers share: the status of the budget, the warning, and the line with the experience.
-/

namespace BukuKas

open Calendar (Date)
open Number (Binary64)
open Report (Attachment Content Renderer)

/-- An answer: a text, or silence, perhaps with a file. -/
structure Reply where
  text : Option String
  attachment : Option Attachment := none
  deriving DecidableEq

/-- The circumstances of an answer. -/
structure Occasion where
  /-- The local date. -/
  today : Date
  /-- The share of a budget from which on to warn. -/
  threshold : Binary64
  /-- The number of the tip that chance brings. -/
  tip : Int
  /-- Which makers of attachments work. -/
  works : Renderer → Bool

namespace Reply

/-- An answer of several lines. -/
def ofLines (lines : List String) : Reply := { text := some (joinLines lines) }

/-- An answer of one text. -/
def ofText (text : String) : Reply := { text := some text }

/-- Lines with numbers before them, from one on. -/
def numbered {α : Type} (f : Nat → α → List String) (xs : List α) : List String :=
  (xs.zipIdx 1).flatMap fun (x, n) => f n x

/-- The status of the budget of a user, when a period is active. -/
def budgetStatus (user : Int) : Work (Option BudgetStatus) := do
  match ← Work.query (.activePeriod user) with
  | none => return none
  | some period =>
    let spent ← Work.query (.sumExpenses user period.start period.stop)
    return some ⟨period, spent⟩

/-- The lines of the warning after a recording: an empty line and the warning, if there is one. -/
def alertLines (threshold : Binary64) (chat : Chat) : Work (List String) := do
  if chat.alert then
    let status ← budgetStatus chat.user
    match Alert.message? threshold status with
    | some message => return ["", message]
    | none => return []
  else return []

/-- The points that were earned, and the level that all points together lead to. -/
def experienceText (earned points : Int) : String :=
  let level := Score.Level.ofPoints points
  "⭐ +" ++ toString earned ++ " XP • Level " ++ toString level.number ++ " (" ++ level.name ++ ")"

/-- The line with the points that were earned and the level that all expenses lead to. -/
def experienceLine (user : Int) (earned : Int) : Work String := do
  let amounts ← Work.query (.expenseAmounts user)
  let points ← Work.ofExcept (Score.totalPoints amounts)
  return experienceText earned points

/-- The attachment that a maker makes; nothing when the maker does not work. -/
def attach (o : Occasion) (maker : Renderer) (filename : String) (content : Except Fault Content) :
    Option Attachment :=
  if o.works maker then
    match content with
    | .ok c => some ⟨filename, c⟩
    | .error _ => none
  else none

end Reply

end BukuKas
