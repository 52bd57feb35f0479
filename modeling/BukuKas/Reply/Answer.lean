import BukuKas.Command
import BukuKas.Reply.Question
import BukuKas.Reply.Reminder

/-!
# Answering an intent

Each intent has its answer.  Most answers need the chat of the sender; the help, the lists and what
chance or the date brings do not.

## Main results

* `answer_none_eq_fail_iff` : which intents cannot be answered without a chat.
-/

namespace BukuKas.Reply

/-- Work on the chat of a sender, of which a part is needed first. -/
def needing (part : ChatPart) (chat : Option Chat) (work : Chat → Work Reply) : Work Reply :=
  match chat with
  | some chat => work chat
  | none => .fail (.noChat part)

@[simp] theorem needing_some (part : ChatPart) (chat : Chat) (work : Chat → Work Reply) :
    needing part (some chat) work = work chat := rfl

@[simp] theorem needing_none (part : ChatPart) (work : Chat → Work Reply) :
    needing part none work = .fail (.noChat part) := rfl

/-- The work that an intent of a sender causes. -/
def answer (o : Occasion) (chat : Option Chat) : Intent → Work Reply
  | .add e => needing .user chat fun chat => add o chat e
  | .addMany es => needing .user chat fun chat => addMany o chat es
  | .remaining => needing .user chat (remaining o)
  | .spending => needing .user chat (spending o)
  | .today => needing .user chat (today o)
  | .weekly => needing .user chat (weekly o)
  | .undo => needing .last chat undo
  | .delete index => needing .user chat fun chat => delete o chat index
  | .categories => return ofText categoryList
  | .listReminders => needing .reminders chat fun chat => return listReminders chat.reminders
  | .addReminder name day => needing .reminders chat fun chat => addReminder chat name day
  | .deleteReminder index => needing .reminders chat fun chat => deleteReminder chat index
  | .comparison => needing .user chat (comparison o)
  | .prediction => needing .user chat (prediction o)
  | .recap => needing .user chat (recap o)
  | .challenge => return challenge o
  | .health => needing .user chat (health o)
  | .mood => needing .user chat (mood o)
  | .tip => return ofText ("💡 *Tips Hemat*\n\n" ++ tip o.tip)
  | .setAlert enabled => needing .alert chat fun chat => setAlert chat enabled
  | .help => return ofText help
  | .unknown text => return { text := Command.hint? text.toList }

/-- Whether an intent is answered alike for everybody. -/
def isGeneral : Intent → Bool
  | .categories => true
  | .challenge => true
  | .tip => true
  | .help => true
  | .unknown _ => true
  | _ => false

theorem answer_none_eq_fail_iff (o : Occasion) (intent : Intent) :
    (∃ part, answer o none intent = .fail (.noChat part)) ↔ isGeneral intent = false := by
  cases intent <;> simp [answer, isGeneral]

end BukuKas.Reply
