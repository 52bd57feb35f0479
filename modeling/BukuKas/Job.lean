import BukuKas.Gateway
import BukuKas.Reply.Question

/-!
# Scheduled jobs

A job goes through the chats in order and works out a notice for each: a text to send, or silence.
A notice that cannot be worked out or sent counts as failed, and the job goes on with the next chat.

## Main results

* `accounts_ofOutcomes` : every chat is counted once, as sent, skipped or failed.
-/

namespace BukuKas

open Calendar (Date)
open Number (Binary64)

/-- The scheduled jobs. -/
inductive Job where
  | morning
  | budgetCheck
  | reminders
  | evening
  | night
  deriving DecidableEq, Repr

namespace Job

/-- The jobs in order. -/
def all : List Job := [morning, budgetCheck, reminders, evening, night]

/-- The name by which a job is called. -/
def name : Job → String
  | morning => "morning"
  | budgetCheck => "budget_check"
  | reminders => "reminders"
  | evening => "evening"
  | night => "night"

/-- The job of that name. -/
def ofName? (s : String) : Option Job := all.find? fun job => job.name == s

theorem ofName?_name (job : Job) : ofName? job.name = some job := by
  cases job <;> decide

/-! ## Notices -/

/-- The greeting of the morning, with the challenge of the day. -/
def morningNotice (chat : Chat) (today : Date) : String :=
  "🌅 Selamat pagi, " ++ chat.name ++ "!\n\n🎯 Tantangan hari ini:\n" ++
    Score.Challenge.ofDate today ++ "\n\nJangan lupa catat setiap pengeluaran ya."

/-- The reminders of a chat that are due on a date. -/
def dueReminders (chat : Chat) (today : Date) : List Reminder :=
  chat.reminders.filter fun reminder => reminder.day == (today.day : Int)

/-- The list of reminders that are due, if any are. -/
def reminderNotice (chat : Chat) (today : Date) : Option String :=
  match dueReminders chat today with
  | [] => none
  | due =>
    some (Reply.joinLines
      (["⏰ *Pengingat Hari Ini*", ""] ++ due.map fun reminder => "• " ++ reminder.name))

/-- The question of the evening, when nothing was recorded that day. -/
def eveningNotice (chat : Chat) : String :=
  "🌇 Hai " ++ chat.name ++ ", belum ada transaksi tercatat hari ini.\n" ++
    "Ada pengeluaran? Kirim saja, misalnya \"Makan malam 30k\"."

/-- The summary of the night. -/
def nightNotice (spent average : Binary64) (mood : Score.Mood) : String :=
  Reply.joinLines [
    "🌙 *Ringkasan Hari Ini*",
    "",
    "Total: " ++ Money.text spent,
    "Rata-rata " ++ toString Reply.moodDays ++ " hari: " ++ Money.text average,
    "Mood belanja: " ++ mood.face ++ " " ++ mood.label]

/-- The notice of a job for a chat, or silence. -/
def notice (threshold : Binary64) (today : Date) (chat : Chat) : Job → Work (Option String)
  | morning => return some (morningNotice chat today)
  | budgetCheck =>
    if chat.alert then do
      let status ← Reply.budgetStatus chat.user
      return Alert.message? threshold status
    else return none
  | reminders => return reminderNotice chat today
  | evening => do
    let rows : List Row ← Work.query (.listToday chat.user today)
    return if rows.isEmpty then some (eveningNotice chat) else none
  | night => do
    let (spent, average, mood) ← Reply.moodOf chat.user today
    return some (nightNotice spent average mood)

/-! ## Runs -/

/-- What came of a job for one chat. -/
inductive Outcome where
  | sent (phone text : String)
  | skipped
  | failed
  deriving DecidableEq, Repr

namespace Outcome

/-- Whether a text was sent. -/
def isSent : Outcome → Bool
  | sent _ _ => true
  | _ => false

/-- The phone and the text, when a text was sent. -/
def delivery? : Outcome → Option (String × String)
  | sent phone text => some (phone, text)
  | _ => none

end Outcome

/-- The work of a job for one chat.  After a failure the reading of the ledger is given up. -/
def serve (threshold : Binary64) (today : Date) (job : Job) (gateway : String → Gateway.Answer)
    (phone : String) (chat : Chat) : Work Outcome := do
  let result ← Work.attempt do
    match ← job.notice threshold today chat with
    | none => return Outcome.skipped
    | some text =>
      Work.ofExcept (Gateway.accept (gateway phone))
      return Outcome.sent phone text
  match result with
  | .ok outcome => return outcome
  | .error _ =>
    let _ ← (Work.query .rollback).attempt
    return .failed

/-- Goes through chats, one after the other, in one unit of work. -/
def runOver (threshold : Binary64) (today : Date) (job : Job) (gateway : String → Gateway.Answer) :
    List (String × Chat) → Work (List Outcome)
  | [] => return []
  | (phone, chat) :: rest => do
    let outcome ← serve threshold today job gateway phone chat
    let outcomes ← runOver threshold today job gateway rest
    return outcome :: outcomes

/-- What a run of a job amounts to. -/
structure Summary where
  job : Job
  /-- The number of chats. -/
  sessions : Nat
  sent : Nat
  skipped : Nat
  failed : Nat
  deriving DecidableEq, Repr

/-- The summary of a run with these outcomes. -/
def Summary.ofOutcomes (job : Job) (outcomes : List Outcome) : Summary where
  job := job
  sessions := outcomes.length
  sent := outcomes.countP Outcome.isSent
  skipped := outcomes.count .skipped
  failed := outcomes.count .failed

theorem accounts_ofOutcomes (job : Job) (outcomes : List Outcome) :
    (Summary.ofOutcomes job outcomes).sessions =
      (Summary.ofOutcomes job outcomes).sent + (Summary.ofOutcomes job outcomes).skipped +
        (Summary.ofOutcomes job outcomes).failed := by
  simp only [Summary.ofOutcomes]
  induction outcomes with
  | nil => rfl
  | cons outcome outcomes ih =>
    cases outcome <;> simp [List.countP_cons, Outcome.isSent] <;> omega

/-- What a run of a job did. -/
structure Run where
  summary : Summary
  /-- The texts that were sent, with their phones, in order. -/
  deliveries : List (String × String)
  deriving DecidableEq, Repr

/-- The work of a job for a list of chats. -/
def work (threshold : Binary64) (today : Date) (job : Job) (gateway : String → Gateway.Answer)
    (chats : List (String × Chat)) : Work Run := do
  let outcomes ← runOver threshold today job gateway chats
  return ⟨Summary.ofOutcomes job outcomes, outcomes.filterMap Outcome.delivery?⟩

/-- Runs the job for all chats of a service. -/
def run (threshold : Binary64) (plan : FaultPlan) (today : Date) (gateway : String → Gateway.Answer)
    (job : Job) (s : Service) : Except Fault Run × Desk :=
  (job.work threshold today gateway s.chats.items).run plan "" s.desk

/-- Runs the job of that name for all chats of a service. -/
def runNamed (threshold : Binary64) (plan : FaultPlan) (today : Date)
    (gateway : String → Gateway.Answer) (name : String) (s : Service) : Except Fault Run × Desk :=
  match ofName? name with
  | none => (.error (.unknownJob name), s.desk)
  | some job => job.run threshold plan today gateway s

end Job

end BukuKas
