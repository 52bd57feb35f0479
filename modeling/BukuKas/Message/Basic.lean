import BukuKas.Calendar.Zone
import BukuKas.Reply.Basic
import BukuKas.Settings

/-!
# Messages and responses

A message comes from a sender, is of a kind, and may have a text and the instant at which it was
sent.  It is met with a response.

Most messages are passed over: those that are no text, that come from a group, whose phone is not
let in, or whose text is blank.

## Main results

* `words?_eq_some_iff` : which messages are listened to, and what is read of them.
-/

namespace BukuKas

open Calendar (Date Instant Zone ZoneDatabase)
open Number (Binary64)
open Report (Attachment Renderer)

/-- The kinds of messages. -/
inductive MessageKind where
  | text
  | chat
  | audio
  | image
  | document
  | sticker
  deriving DecidableEq, Repr

/-- Whether messages of the kind are texts. -/
def MessageKind.isText : MessageKind → Bool
  | .text => true
  | .chat => true
  | _ => false

/-- A message as it comes in. -/
structure Message where
  /-- The sender as the gateway writes it. -/
  sender : String
  kind : MessageKind := .chat
  text : Option String := none
  /-- When the message was sent, if that is known. -/
  sentAt : Option Instant := none
  deriving DecidableEq

/-- How a message was met. -/
inductive Status where
  | ok
  | ignored
  | error
  deriving DecidableEq, Repr

/-- What a message is met with. -/
structure Response where
  status : Status
  reply : Option String := none
  attachment : Option Attachment := none
  deriving DecidableEq

namespace Response

/-- The message is passed over. -/
def ignored : Response := { status := .ignored }

/-- The message is answered with a text. -/
def ofText (text : String) : Response := { status := .ok, reply := some text }

/-- The work for the message failed. -/
def failed (text : String) : Response := { status := .error, reply := some text }

/-- The response that carries a reply.  Without a text the message is passed over. -/
def ofReply (r : Reply) : Response :=
  if r.text.isSome then { status := .ok, reply := r.text, attachment := r.attachment } else ignored

end Response

/-- The circumstances in which a message is handled. -/
structure Circumstances where
  settings : Settings
  /-- What the clock on the wall shows. -/
  now : Instant
  /-- The number of the tip that chance brings. -/
  tip : Int := 0
  /-- Which makers of attachments work. -/
  works : Renderer → Bool := fun _ => true
  /-- Where time zones are looked up. -/
  zones : ZoneDatabase := .ofSample

namespace Circumstances

/-- The time zone that is set. -/
def zone (c : Circumstances) : Except Fault Zone := c.zones.zone c.settings.timezone

/-- The local date of an instant, or of now when none is given. -/
def localDate (c : Circumstances) (i : Option Instant) : Except Fault Date :=
  match c.zone with
  | .error fault => .error fault
  | .ok zone =>
    match zone.dateOf? (i.getD c.now) with
    | none => .error .dateOutOfRange
    | some today => .ok today

/-- The occasion of an answer that is given on a date. -/
def occasion (c : Circumstances) (today : Date) : Occasion :=
  { today := today, threshold := c.settings.alertThreshold, tip := c.tip, works := c.works }

end Circumstances

namespace Message

/-- The phone from which the message comes. -/
def phone (m : Message) : String := Sender.phone m.sender

/-- The text of the message without white space at its ends. -/
def trimmed (m : Message) : List Char := Text.trim (m.text.getD "").toList

/-- Whether the message is one that the service listens to. -/
def isHeard (s : Settings) (m : Message) : Bool :=
  m.kind.isText && !Sender.isGroup m.sender && s.admits m.phone && !m.trimmed.isEmpty

/-- What is read of the message, if it is listened to. -/
def words? (s : Settings) (m : Message) : Option (List Char) :=
  if m.isHeard s then some m.trimmed else none

theorem words?_eq_some_iff {s : Settings} {m : Message} {cs : List Char} :
    m.words? s = some cs ↔
      m.kind.isText = true ∧ Sender.isGroup m.sender = false ∧ s.admits m.phone = true ∧
        m.trimmed = cs ∧ cs ≠ [] := by
  unfold words? isHeard
  constructor
  · intro h
    split at h
    · rename_i hc
      injection h with h
      subst h
      simpa [and_assoc] using hc
    · cases h
  · rintro ⟨h1, h2, h3, h4, h5⟩
    subst h4
    simp [h1, h2, h3, h5]

end Message

end BukuKas
