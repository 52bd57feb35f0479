import BukuKas.Proofs.Command.Legible
import BukuKas.Proofs.Message.Course
import Mathlib.Control.Monad.Basic

/-!
# Which messages are met with a response

Whatever fails while a message is answered is caught, and the response says so.  The text is read
before that, so a text that cannot be read leaves the message without a response; and it is the only
cause for that once the message has a local date.  No fault of the ledger or of a maker of
attachments is another.

## Main results

* `of_request` : what is known of a message from its request.
* `response_of_handle` : a message with a local date has no response exactly when what it says in a
  chat cannot be read.
-/

namespace BukuKas.Message

open Calendar (Date)

variable {c : Circumstances} {plan : FaultPlan} {m : Message} {s : Service}

/-! ## Requests -/

theorem request_eq_none_iff : m.request c = .ok none ↔ m.isHeard c.settings = false := by
  unfold request words?
  cases m.isHeard c.settings with
  | false => simp
  | true =>
      rw [if_pos rfl]
      cases c.localDate m.sentAt <;> simp

/-- The request of a message that is listened to and has a local date is that of its text. -/
theorem request_of_isHeard (hheard : m.isHeard c.settings = true) {today : Date}
    (hdate : c.localDate m.sentAt = .ok today) :
    m.request c = .ok (some (.ofText today m.trimmed)) := by
  unfold request words?
  rw [if_pos hheard, hdate]

/-- A message with a request is listened to, and its request is that of its text on its local
date. -/
theorem of_request {request : Request} (h : m.request c = .ok (some request)) :
    m.isHeard c.settings = true ∧
      ∃ today, c.localDate m.sentAt = .ok today ∧ request = .ofText today m.trimmed := by
  unfold Message.request words? at h
  cases hheard : m.isHeard c.settings with
  | false =>
      rw [hheard] at h
      exact nomatch h
  | true =>
      rw [hheard] at h
      cases hdate : c.localDate m.sentAt with
      | error fault =>
          rw [hdate] at h
          exact nomatch h
      | ok today =>
          rw [hdate] at h
          injection h with h
          injection h with h
          exact ⟨rfl, today, rfl, h.symm⟩

/-- A text that is no login, no logout and no call for help is said in a chat. -/
theorem ofText_eq_speech {today : Date} {text : List Char}
    (hlogin : Account.isLogin (Text.lower text) = false)
    (hlogout : Text.lower text ≠ Account.logoutCommand.toList)
    (hhelp : ∀ command ∈ helpCommands, Text.lower text ≠ command.toList) :
    Request.ofText today text = .speech today text := by
  have hcall : (helpCommands.any fun command => Text.lower text == command.toList) = false := by
    rw [List.any_eq_false]
    intro command hcommand
    simpa using hhelp command hcommand
  unfold Request.ofText
  dsimp only
  rw [hlogin, hcall, beq_false_of_ne hlogout]
  rfl

/-- What is said in a chat is the text of the message, on its local date. -/
theorem of_speech {today : Date} {text : List Char}
    (h : m.request c = .ok (some (.speech today text))) :
    m.isHeard c.settings = true ∧ c.localDate m.sentAt = .ok today ∧ text = m.trimmed := by
  obtain ⟨hheard, date, hdate, hspeech⟩ := of_request h
  unfold Request.ofText at hspeech
  dsimp only at hspeech
  split at hspeech
  · exact nomatch hspeech
  · split at hspeech
    · exact nomatch hspeech
    · split at hspeech
      · exact nomatch hspeech
      · injection hspeech with htoday htext
        exact ⟨hheard, htoday ▸ hdate, htext⟩

/-- A message with a local date has no fault in its request. -/
theorem request_ne_error {today : Date} (hdate : c.localDate m.sentAt = .ok today) (fault : Fault) :
    m.request c ≠ .error fault := by
  unfold request
  cases m.words? c.settings with
  | none => exact nofun
  | some text =>
      rw [hdate]
      exact nofun

/-! ## Responses -/

/-- A course that ends with a fault is that of something that cannot be read. -/
theorem unread_of_course {today : Date} (hdate : c.localDate m.sentAt = .ok today)
    {fault : Fault} {after : Desk} (hcourse : Course c plan m s (.error fault) after) :
    ∃ chat, s.chats.get? m.phone = some chat ∧ m.request c = .ok (some (.speech today m.trimmed)) ∧
      Command.classify m.trimmed today = .error fault := by
  cases hcourse with
  | undated hrequest => exact absurd hrequest (request_ne_error hdate fault)
  | @unread other text chat fault hrequest hchat hread =>
      obtain ⟨-, hother, rfl⟩ := of_speech hrequest
      injection hdate.symm.trans hother with htoday
      subst htoday
      exact ⟨chat, hchat, hrequest, hread⟩

/-- Something that cannot be read leaves the message without a response. -/
theorem handle_of_unread {today : Date} {text : List Char} {chat : Chat} {fault : Fault}
    (hrequest : m.request c = .ok (some (.speech today text)))
    (hchat : s.chats.get? m.phone = some chat)
    (hread : Command.classify text today = .error fault) :
    m.handle c plan s = (.error fault, s.desk) := by
  rw [handle_eq, hrequest, hchat]
  show (converse c today text).run plan m.phone s.desk = (.error fault, s.desk)
  rw [run_converse hchat, hread]

/-- A message with a local date is met with a response, unless it says in a chat what cannot be
read; and everything can be read but long runs of digits and the Turkish forms of `i`. -/
theorem response_of_handle {today : Date} (hdate : c.localDate m.sentAt = .ok today) :
    (∀ fault, (m.handle c plan s).1 = .error fault ↔
      ∃ chat, s.chats.get? m.phone = some chat ∧
        m.request c = .ok (some (.speech today m.trimmed)) ∧
        Command.classify m.trimmed today = .error fault) ∧
    (Legible m.trimmed → ∃ r, (m.handle c plan s).1 = .ok r) := by
  have hfault : ∀ fault, (m.handle c plan s).1 = .error fault →
      ∃ chat, s.chats.get? m.phone = some chat ∧
        m.request c = .ok (some (.speech today m.trimmed)) ∧
        Command.classify m.trimmed today = .error fault := by
    intro fault hresult
    have hcourse := course_of_handle c plan m s
    rw [hresult] at hcourse
    exact unread_of_course hdate hcourse
  refine ⟨fun fault => ⟨hfault fault, ?_⟩, fun hlegible => ?_⟩
  · rintro ⟨chat, hchat, hrequest, hread⟩
    rw [handle_of_unread hrequest hchat hread]
  · cases hresult : (m.handle c plan s).1 with
    | ok r => exact ⟨r, rfl⟩
    | error fault =>
        obtain ⟨chat, -, -, hread⟩ := hfault fault hresult
        obtain ⟨intent, hintent⟩ := Command.classify_of_legible hlegible today
        exact nomatch hintent.symm.trans hread

/-- An expense is met with a response although every call to the ledger fails. -/
theorem response_of_broken_ledger :
    let chat : Chat := { user := 1, email := "budi@gmail.com", name := "budi" }
    let s : Service := { chats := Roster.empty.set "62" chat }
    let m : Message := { sender := "62@c.us", text := some "kopi 20rb" }
    let c : Circumstances := { settings := {}, now := ⟨1792378800⟩ }
    c.localDate m.sentAt = .ok ⟨2026, 10, 19, by decide⟩ ∧
      ∃ r, (m.handle c (fun _ _ => true) s).1 = .ok r := by
  intro chat s m c
  have hdate : c.localDate m.sentAt = .ok ⟨2026, 10, 19, by decide⟩ := by decide +kernel
  have hlegible : Legible m.trimmed := by
    refine ⟨fun ds hds _ => ?_, by decide +kernel, by decide +kernel⟩
    have hshort : m.trimmed.length ≤ Number.maxDigits := by decide +kernel
    exact Nat.le_trans hds.length_le hshort
  exact ⟨hdate, (response_of_handle hdate).2 hlegible⟩

/-- A unit that is written with a dotless `i` is recognised, but has no meaning: the message has no
response, and nothing was rolled back. -/
theorem handle_dotless_unit :
    let chat : Chat := { user := 1, email := "budi@gmail.com", name := "budi" }
    let s : Service := { chats := Roster.empty.set "62" chat }
    let m : Message := { sender := "62@c.us", text := some "kopi 20r\u0131bu" }
    let c : Circumstances := { settings := {}, now := ⟨1792378800⟩ }
    c.localDate m.sentAt = .ok ⟨2026, 10, 19, by decide⟩ ∧
      (m.handle c .none s).1 = .error (.unknownUnit "r\u0131bu") := by
  intro chat s m c
  exact ⟨by decide +kernel, by decide +kernel⟩

end BukuKas.Message
