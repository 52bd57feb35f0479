import BukuKas.Message.Account
import BukuKas.Reply.Answer

/-!
# Handling a message

A message that is listened to is a login, a logout, a call for help, or something said in a chat.
What is said in a chat is answered and committed in one piece: when anything fails, the chat is as
it was before, and the writes are rolled back.

A login and an answer wait for their turn at the phone; all else happens at once.

## Main results

* `errand_of_not_heard` : a message that is passed over causes no work.
-/

namespace BukuKas

open Calendar (Date)

/-- The work that a message causes, by when it may begin. -/
inductive Errand where
  /-- Work that begins at once. -/
  | atOnce (work : Work Response)
  /-- Work that waits until no other such work of the phone is under way. -/
  | inTurn (work : Work Response)

namespace Errand

/-- The work, whenever it begins. -/
def work : Errand → Work Response
  | .atOnce work => work
  | .inTurn work => work

end Errand

namespace Message

/-- Answers an intent of somebody with or without a chat, and commits what the answer wrote. -/
def settle (o : Occasion) (chat : Option Chat) (intent : Intent) : Work Reply := do
  let reply ← Reply.answer o chat intent
  Work.query .commit
  return reply

/-- Gives the own chat back the alert, the last recording and the reminders that it had.  A chat
that was ended in the meantime stays ended. -/
def restore (saved : Chat) : Work Unit := do
  match ← Work.chat? with
  | some chat => Work.put (chat.restore saved)
  | none => return ()

/-- Puts the own chat right and forgets the writes, whether or not the ledger hears of it. -/
def makeGood (saved : Chat) : Work Unit := do
  restore saved
  let _ ← (Work.query .rollback).attempt
  return ()

/-- Settles what is said in a chat.  After a failure the chat gets back what the answer may have
changed, the writes are rolled back, and the response says so. -/
def settleOrRestore (o : Occasion) (chat : Chat) (intent : Intent) : Work Response := do
  let result ← (settle o (some chat) intent).attempt
  match result with
  | .ok reply => return .ofReply reply
  | .error _ =>
    makeGood chat
    return .failed Reply.failure

/-- The work of what is said in a chat.  Whoever has logged out in the meantime is passed over. -/
def converse (c : Circumstances) (today : Date) (text : List Char) : Work Response := do
  match ← Work.chat? with
  | none => return .ignored
  | some chat =>
    let intent ← Work.ofExcept (Command.classify text today)
    settleOrRestore (c.occasion today) chat intent

/-- The texts in lower case that ask for help without a chat. -/
def helpCommands : List String := ["!help", "help"]

/-- What a text comes to that is listened to, on a date, from a phone with or without a chat. -/
def errandOn (c : Circumstances) (today : Date) (text : List Char) (hasChat : Bool) : Errand :=
  let lowered := Text.lower text
  if Account.isLogin lowered then .inTurn (Account.login text)
  else if lowered == Account.logoutCommand.toList then .atOnce Account.logout
  else if helpCommands.any fun command => lowered == command.toList then
    .atOnce (return .ofText Reply.help)
  else if hasChat then .inTurn (converse c today text)
  else .atOnce (return .ignored)

/-- What a message comes to, by whether its phone has a chat. -/
def errand (c : Circumstances) (m : Message) (hasChat : Bool) : Errand :=
  match m.words? c.settings with
  | none => .atOnce (return .ignored)
  | some text =>
    match c.localDate m.sentAt with
    | .error fault => .atOnce (.fail fault)
    | .ok today => errandOn c today text hasChat

theorem errand_of_not_heard {c : Circumstances} {m : Message} (h : m.isHeard c.settings = false)
    (hasChat : Bool) : m.errand c hasChat = .atOnce (.done .ignored) := by
  simp [errand, words?, h]

/-- The work that a message causes when no other message is under way. -/
def work (c : Circumstances) (m : Message) : Work Response :=
  .look fun chat => (m.errand c chat.isSome).work

/-- Handles a message from its beginning to its end. -/
def handle (c : Circumstances) (plan : FaultPlan) (m : Message) (s : Service) :
    Except Fault Response × Desk :=
  (m.work c).run plan m.phone s.desk

end Message

end BukuKas
