import BukuKas.Proofs.Message.Course
import BukuKas.Proofs.Work.Tenancy

/-!
# Users cannot see each other

Only a login looks at anything that does not belong to the sender.  Every other message has the same
response on any two services that look alike to its phone: those with the same chat of the phone,
the same rows and periods of the user of that chat, and the same counter, whatever else they hold.
It makes the same calls on both, and they look alike afterwards.

## Main results

* `handle_alike` : messages other than logins cannot tell services apart that look alike.
-/

namespace BukuKas

/-- Two services look alike to a phone. -/
structure Service.LooksLike (phone : String) (s t : Service) : Prop where
  next : s.ledger.nextId = t.ledger.nextId
  chat : s.chats.get? phone = t.chats.get? phone
  rows : ∀ chat, s.chats.get? phone = some chat →
    ownRows chat.user s.ledger.rows = ownRows chat.user t.ledger.rows
  periods : ∀ chat, s.chats.get? phone = some chat →
    ownPeriods chat.user s.ledger.periods = ownPeriods chat.user t.ledger.periods

/-- Work that begins on services that look alike begins on desks that agree. -/
theorem Service.LooksLike.desk {phone : String} {s t : Service} (h : s.LooksLike phone t)
    {chat : Chat}
    (hchat : s.chats.get? phone = some chat) : s.desk.Agree chat.user phone t.desk where
  draft := ⟨h.next, h.rows chat hchat, h.periods chat hchat, rfl⟩
  chat := h.chat
  calls := rfl

namespace Message

variable {c : Circumstances} {plan : FaultPlan} {m : Message} {s t : Service}

theorem keeps_settle (o : Occasion) (chat : Chat) (intent : Intent) :
    (settle o (some chat) intent).Keeps (Rule.own chat.user) fun _ => True := by
  refine Work.keeps_bind (Work.keeps_mono (Reply.keeps_answer o chat intent)
    (Rule.writing_within_own chat) fun _ h => h) fun reply _ => ?_
  exact Work.keeps_bind (Work.keeps_query (.inr (.inl rfl))) fun _ _ => trivial

theorem keeps_makeGood (user : Int) (saved : Chat) :
    (makeGood saved).Keeps (Rule.own user) fun _ => True := by
  have hrestore : (restore saved).Keeps (Rule.own user) fun _ => True := by
    refine ⟨trivial, fun found => ?_⟩
    cases found with
    | none => trivial
    | some chat => exact Work.keeps_put trivial
  apply Work.keeps_bind hrestore
  intro _ _
  exact Work.keeps_bind (Work.keeps_attempt (Work.keeps_query (.inr (.inr rfl)))) fun _ _ => trivial

/-- What is said in a chat causes work for the user of that chat, also when it fails. -/
theorem keeps_settleOrRestore (o : Occasion) (chat : Chat) (intent : Intent) :
    (settleOrRestore o chat intent).Keeps (Rule.own chat.user) fun _ => True := by
  apply Work.keeps_bind (Work.keeps_attempt (keeps_settle o chat intent))
  intro result _
  cases result with
  | ok reply => trivial
  | error fault => exact Work.keeps_bind (keeps_makeGood chat.user chat) fun _ _ => trivial

/-- What is said in a chat cannot tell services apart that look alike. -/
theorem agree_converse (h : s.LooksLike m.phone t) {chat : Chat}
    (hchat : s.chats.get? m.phone = some chat) (today : Calendar.Date) (text : List Char) :
    ((converse c today text).run plan m.phone s.desk).1 =
        ((converse c today text).run plan m.phone t.desk).1 ∧
      ((converse c today text).run plan m.phone s.desk).2.Agree chat.user m.phone
        ((converse c today text).run plan m.phone t.desk).2 := by
  have hother : t.chats.get? m.phone = some chat := h.chat ▸ hchat
  have hrun : ∀ u : Service, u.chats.get? m.phone = some chat →
      (converse c today text).run plan m.phone u.desk =
        (Work.ofExcept (Command.classify text today) >>= fun intent =>
          settleOrRestore (c.occasion today) chat intent).run plan m.phone u.desk := by
    intro u hu
    have hlook : Work.chat?.run plan m.phone u.desk = (.ok (some chat), u.desk) := by
      rw [Work.run_chat?]
      exact congrArg (fun found => (Except.ok found, u.desk)) hu
    unfold converse
    rw [Work.run_bind_of_ok hlook]
  have hkeeps : (Work.ofExcept (Command.classify text today) >>= fun intent =>
      settleOrRestore (c.occasion today) chat intent).Keeps (Rule.own chat.user) fun _ => True :=
    Work.keeps_bind (Work.keeps_ofExcept _) fun intent _ =>
      keeps_settleOrRestore (c.occasion today) chat intent
  rw [hrun s hchat, hrun t hother]
  exact Work.agree_run hkeeps plan (h.desk hchat)

/-- A message that is no login cannot tell services apart that look alike to its phone: it is met
with the same response and makes the same calls, and afterwards the services agree on the chat of
the phone and on the rows of its user. -/
theorem handle_alike (hlogin : ∀ text, m.request c ≠ .ok (some (.login text)))
    (h : s.LooksLike m.phone t) :
    (m.handle c plan s).1 = (m.handle c plan t).1 ∧
      (m.handle c plan s).2.calls = (m.handle c plan t).2.calls ∧
      (m.handle c plan s).2.service.chats.get? m.phone =
        (m.handle c plan t).2.service.chats.get? m.phone ∧
      ∀ chat, s.chats.get? m.phone = some chat →
        ownRows chat.user (m.handle c plan s).2.service.ledger.rows =
          ownRows chat.user (m.handle c plan t).2.service.ledger.rows := by
  rw [handle_eq c plan m s, handle_eq c plan m t, ← h.chat]
  cases hrequest : m.request c with
  | error fault => exact ⟨rfl, rfl, h.chat, h.rows⟩
  | ok request =>
      cases request with
      | none => exact ⟨rfl, rfl, h.chat, h.rows⟩
      | some request =>
          cases request with
          | login text => exact absurd hrequest (hlogin text)
          | help => exact ⟨rfl, rfl, h.chat, h.rows⟩
          | logout =>
              have hget : s.desk.chats.get? m.phone = s.chats.get? m.phone := rfl
              have hother : t.desk.chats.get? m.phone = s.chats.get? m.phone := h.chat.symm
              simp only [errandOf, Errand.work]
              rw [run_logout, run_logout, hget, hother]
              cases hchat : s.chats.get? m.phone with
              | none =>
                  refine ⟨rfl, rfl, h.chat, ?_⟩
                  intro chat hsome
                  cases hsome
              | some chat =>
                  refine ⟨rfl, rfl, ?_, fun found hfound => h.rows found (hchat.trans hfound)⟩
                  show (s.chats.erase m.phone).get? m.phone = (t.chats.erase m.phone).get? m.phone
                  rw [Roster.get?_erase_self, Roster.get?_erase_self]
          | speech today text =>
              cases hchat : s.chats.get? m.phone with
              | none =>
                  refine ⟨rfl, rfl, h.chat, ?_⟩
                  intro chat hsome
                  cases hsome
              | some chat =>
                  obtain ⟨hresult, hagree⟩ := agree_converse h hchat today text
                  refine ⟨hresult, hagree.calls, hagree.chat, fun found hfound => ?_⟩
                  rw [← Option.some.inj hfound]
                  exact hagree.draft.committed

/-- The sender's undo finds its row by number among its own: a row of another user with the same
number is neither removed nor noticed. -/
theorem handle_alike_of_same_number :
    let chat : Chat := { user := 1, email := "budi@gmail.com", name := "budi", last := some 1 }
    let other : Chat := { user := 2, email := "siti@gmail.com", name := "siti" }
    let row (user : Int) : Row :=
      ⟨1, user, "kopi", .hundredths 2000000, "Makanan", ⟨2026, 10, 19, by decide⟩, .expense, 1⟩
    let s : Service := {
      ledger := { rows := [row 1], nextId := 2 }
      chats := Roster.empty.set "62" chat }
    let t : Service := {
      ledger := { rows := [row 2, row 1], nextId := 2, users := [⟨2, "siti@gmail.com", none⟩] }
      chats := (Roster.empty.set "63" other).set "62" chat }
    let c : Circumstances := { settings := {}, now := ⟨1792378800⟩ }
    let m : Message := { sender := "62@c.us", text := some "!undo" }
    ((m.handle c .none t).2.service.ledger.rows = [row 2] ∧
      (m.handle c .none t).2.count .commit = 1) ∧
      (m.handle c .none s).1 = (m.handle c .none t).1 ∧
      (m.handle c .none s).2.calls = (m.handle c .none t).2.calls ∧
      (m.handle c .none s).2.service.chats.get? m.phone =
        (m.handle c .none t).2.service.chats.get? m.phone ∧
      ∀ chat, s.chats.get? m.phone = some chat →
        ownRows chat.user (m.handle c .none s).2.service.ledger.rows =
          ownRows chat.user (m.handle c .none t).2.service.ledger.rows := by
  intro chat other row s t c m
  have hrows : (m.handle c .none t).2.service.ledger.rows = [row 2] ∧
      (m.handle c .none t).2.count .commit = 1 := by decide +kernel
  have hlogin : ∀ text, m.request c ≠ .ok (some (.login text)) := by
    intro text hrequest
    have hintent : m.intent? c = some .undo := by decide +kernel
    simp [intent?, hrequest, Except.toOption, Request.intent?] at hintent
  have hphone : m.phone = "62" := by decide +kernel
  have hchat : s.chats.get? m.phone = some chat := by
    rw [hphone]
    rfl
  have hlooks : s.LooksLike m.phone t := by
    refine ⟨rfl, ?_, ?_, fun _ _ => rfl⟩
    · rw [hphone]
      rfl
    · intro found hfound
      rw [← Option.some.inj (hchat.symm.trans hfound)]
      decide +kernel
  exact ⟨hrows, handle_alike hlogin hlooks⟩

end Message

end BukuKas
