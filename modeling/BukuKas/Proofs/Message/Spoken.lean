import BukuKas.Proofs.Message.Effect
import BukuKas.Proofs.Message.Response
import BukuKas.Proofs.Text.Digits

/-!
# What is said in a chat

When no call is made to fail, what is said in a chat comes to what its answer comes to.  An answer
that ends with a reply is committed, and the message is met with the reply; an answer that ends with
a fault is put right, and only the counter of row numbers has gone on, as far as the answer brought
it.

## Main results

* `handle_of_answered` : a message whose answer ends with a reply.
* `handle_of_refused` : a message whose answer ends with a fault.
-/

namespace BukuKas.Message

open Calendar (Date)

variable {c : Circumstances} {plan : FaultPlan} {m : Message} {s : Service}
variable {today : Date} {text : List Char} {chat : Chat} {intent : Intent}

/-- A text other than a login is said in a chat when it has a character that is its own lower case,
and that stands in no command for a logout or help. -/
theorem ofText_of_mem {text : List Char} {d : Char} (hmem : d ∈ text) (hlow : Text.IsLow d)
    (hlogin : Account.isLogin (Text.lower text) = false)
    (hlogout : d ∉ Account.logoutCommand.toList)
    (hhelp : ∀ command ∈ helpCommands, d ∉ command.toList) :
    Request.ofText today text = .speech today text := by
  have hlower : d ∈ Text.lower text := Text.mem_lowerFrom_of_isLow hlow hmem []
  apply ofText_eq_speech hlogin
  · exact fun heq => hlogout (heq ▸ hlower)
  · exact fun command hcommand heq => hhelp command hcommand (heq ▸ hlower)

/-- A text other than a login is said in a chat when it has a digit. -/
theorem ofText_of_digit {text : List Char} {d : Char} (hmem : d ∈ text)
    (hdigit : Text.isDigit d = true) (hlogin : Account.isLogin (Text.lower text) = false) :
    Request.ofText today text = .speech today text := by
  have hnot {word : List Char} (hword : ∀ x ∈ word, Text.isDigit x = false) : d ∉ word := fun hd =>
    nomatch hdigit.symm.trans (hword d hd)
  have hlogout : ∀ x ∈ Account.logoutCommand.toList, Text.isDigit x = false :=
    Text.not_isDigit_of_all (by decide +kernel)
  have hhelp : ∀ command ∈ helpCommands, ∀ x ∈ command.toList, Text.isDigit x = false :=
    Text.not_isDigit_of_words (by decide +kernel)
  exact ofText_of_mem hmem (Text.isLow_of_isDigit hdigit) hlogin (hnot hlogout)
    fun command hcommand => hnot (hhelp command hcommand)

/-- The message says an intent in a chat, on a date. -/
structure Intends (c : Circumstances) (today : Date) (intent : Intent) (m : Message) : Prop where
  request : m.request c = .ok (some (.speech today m.trimmed))
  read : Command.classify m.trimmed today = .ok intent

/-- What is said in a chat is read and settled. -/
theorem handle_of_speech (hrequest : m.request c = .ok (some (.speech today text)))
    (hchat : s.chats.get? m.phone = some chat) (hread : Command.classify text today = .ok intent) :
    m.handle c plan s =
      (settleOrRestore (c.occasion today) chat intent).run plan m.phone s.desk := by
  rw [handle_eq, hrequest, hchat]
  show (converse c today text).run plan m.phone s.desk = _
  rw [run_converse hchat, hread]

/-- A message whose answer ends with a reply is met with it, and does what its intent comes to. -/
theorem handle_of_answered (hrequest : m.request c = .ok (some (.speech today text)))
    (hchat : s.chats.get? m.phone = some chat) (hread : Command.classify text today = .ok intent)
    {reply : Reply} {d : Desk}
    (hrun : (Reply.answer (c.occasion today) (some chat) intent).run .none m.phone s.desk =
      (.ok reply, d)) :
    (m.handle c .none s).1 = .ok (.ofReply reply) ∧
      ∃ last, (s.standing chat).after today intent = some last ∧
        (m.handle c .none s).2.service = s.settled m.phone last := by
  have hservice := service_of_answered hchat hrun rfl
  have hhandle : m.handle c .none s = (.ok (.ofReply reply), (d.ask .none .commit).2) := by
    rw [handle_of_speech hrequest hchat hread]
    unfold settleOrRestore
    rw [Work.run_bind_eq, Work.run_attempt, run_settle, hrun]
    rfl
  rw [hhandle]
  exact ⟨rfl, hservice⟩

/-- Putting right leaves the counter of row numbers where it is. -/
theorem nextId_makeGood (saved : Chat) (phone : String) (d : Desk) :
    ((makeGood saved).run plan phone d).2.draft.ledger.nextId = d.draft.ledger.nextId := by
  have hrestore : ∃ e, (restore saved).run plan phone d = (.ok (), e) ∧ e.draft = d.draft := by
    unfold restore
    rw [Work.run_bind_of_ok (Work.run_chat? d)]
    cases d.chats.get? phone with
    | none => exact ⟨d, rfl, rfl⟩
    | some chat =>
        refine ⟨d.save phone (chat.restore saved), rfl, ?_⟩
        unfold Desk.save
        split <;> rfl
  obtain ⟨e, he, hdraft⟩ := hrestore
  unfold makeGood
  rw [Work.run_bind_of_ok he, Work.run_bind_eq, Work.run_attempt, Work.run_query, ← hdraft]
  rcases Desk.draft_ask plan e .rollback with hask | hask
  · exact congrArg (fun draft => draft.ledger.nextId) hask
  · exact congrArg (fun draft => draft.ledger.nextId) hask

/-- A message whose answer ends with a fault is met with the reply to a failure.  Of all that the
answer did only the numbers that it used up are left. -/
theorem handle_of_refused (hrequest : m.request c = .ok (some (.speech today text)))
    (hchat : s.chats.get? m.phone = some chat) (hread : Command.classify text today = .ok intent)
    {fault : Fault} {d : Desk}
    (hrun : (Reply.answer (c.occasion today) (some chat) intent).run .none m.phone s.desk =
      (.error fault, d)) :
    (m.handle c .none s).1 = .ok (.failed Reply.failure) ∧
      (m.handle c .none s).2.service =
        { s with ledger := { s.ledger with nextId := d.draft.ledger.nextId } } := by
  have hsettle : (settle (c.occasion today) (some chat) intent).run .none m.phone s.desk =
      (.error fault, d) := by
    rw [run_settle, hrun]
  obtain ⟨after, hgood, n, -, hservice⟩ := run_makeGood .none hchat (drafts_of_settle hchat hsettle)
  have hhandle : m.handle c .none s = (.ok (.failed Reply.failure), after) := by
    rw [handle_of_speech hrequest hchat hread]
    unfold settleOrRestore
    rw [Work.run_bind_eq, Work.run_attempt, hsettle]
    dsimp only
    rw [Work.run_bind_of_ok hgood]
    rfl
  have hcount : n = d.draft.ledger.nextId := by
    have hkept : after.draft.ledger.nextId = d.draft.ledger.nextId := by
      rw [← nextId_makeGood chat m.phone d, hgood]
    rw [← hkept]
    exact (congrArg (fun other => other.ledger.nextId) hservice).symm
  rw [hhandle, ← hcount]
  exact ⟨rfl, hservice⟩

end BukuKas.Message
