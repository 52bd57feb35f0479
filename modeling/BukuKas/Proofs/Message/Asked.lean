import BukuKas.Proofs.Command.Numbered
import BukuKas.Proofs.Message.Spoken

/-!
# Commands of one word

A command that consists of one word is read as its intent, whatever its case and the white space
around it: no word of the table mentions what a question is known by, asks for help, logs in or logs
out.  So when the answer to the intent ends with a reply, the sender of the word is met with this
reply.

## Main results

* `read_wordCommand`, `ofText_wordCommand` : how the words of the table are read.
* `Asks.intends`, `Asks.answered` : a message that is such a word.
-/

namespace BukuKas

open Calendar (Date)

/-- No word of the table is anything else than a command of one word. -/
theorem Command.apart_of_wordCommand : ∀ command ∈ wordCommands,
    question? command.1.toList = none ∧ command.1.toList.head? = some '!' ∧
      (wordCommands.find? fun other => other.1.toList == command.1.toList) = some command ∧
      Account.isLogin command.1.toList = false ∧ command.1.toList ≠ Account.logoutCommand.toList ∧
      ∀ word ∈ Message.helpCommands, command.1.toList ≠ word.toList := by
  decide +kernel

namespace Message

variable {c : Circumstances} {m : Message} {s : Service} {phone word : String} {today : Date}
variable {text : List Char} {intent : Intent} {chat : Chat}

/-- A word of the table is read as its intent. -/
theorem read_wordCommand (hword : (word, intent) ∈ Command.wordCommands)
    (htext : Text.lower (Text.trim text) = word.toList) (today : Date) :
    Command.classify text today = .ok intent := by
  obtain ⟨hquestion, hmark, hfind, -⟩ := Command.apart_of_wordCommand _ hword
  rw [← htext] at hquestion hmark hfind
  exact Command.classify_of_wordCommand hquestion hmark hfind today

/-- A word of the table is said in a chat. -/
theorem ofText_wordCommand (hword : (word, intent) ∈ Command.wordCommands)
    (htext : Text.lower text = word.toList) : Request.ofText today text = .speech today text := by
  obtain ⟨-, -, -, hlogin, hlogout, hhelp⟩ := Command.apart_of_wordCommand _ hword
  rw [← htext] at hlogin hlogout hhelp
  exact ofText_eq_speech hlogin hlogout hhelp

/-- The message is listened to; it is the word, in any case and with white space around it, and
comes from the phone on the local date. -/
structure Asks (c : Circumstances) (today : Date) (phone word : String) (m : Message) : Prop where
  heard : m.isHeard c.settings = true
  sender : m.phone = phone
  date : c.localDate m.sentAt = .ok today
  word : Text.lower m.trimmed = word.toList

/-- A word of the table says its intent. -/
theorem Asks.intends (h : m.Asks c today phone word)
    (hword : (word, intent) ∈ Command.wordCommands) :
    m.Intends c today intent where
  request := by rw [request_of_isHeard h.heard h.date, ofText_wordCommand hword h.word]
  read := read_wordCommand hword
    (by rw [show Text.trim m.trimmed = m.trimmed from Text.trim_trim _, h.word]) today

/-- A word of the table that is sent to a chat is met with the reply of its answer. -/
theorem Asks.answered (h : m.Asks c today phone word)
    (hword : (word, intent) ∈ Command.wordCommands)
    (hchat : s.chats.get? phone = some chat) {reply : Reply} {d : Desk}
    (hrun : (Reply.answer (c.occasion today) (some chat) intent).run .none phone s.desk =
      (.ok reply, d)) :
    (m.handle c .none s).1 = .ok (.ofReply reply) := by
  have hintends := h.intends hword
  obtain rfl := h.sender
  exact (handle_of_answered hintends.request hchat hintends.read hrun).1

end Message

end BukuKas
