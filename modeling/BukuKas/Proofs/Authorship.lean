import BukuKas.Proofs.Job
import BukuKas.Proofs.Message.Effect
import BukuKas.Proofs.Message.Response
import BukuKas.Proofs.Moment
import BukuKas.Proofs.Work.Tenancy

/-!
# Every write has an author

The rows of a user change only by what somebody says who is logged in as that user: in a text, from
no group, from a phone that is let in, and answered with a success.  So each row that a history has
brought in or taken away has a moment at which it came or went, and that moment had such an author.
What fails a gate is passed over without a call to the ledger.

## Main results

* `ownRows_after` : an intent leaves the rows of all other users alone.
* `handle_of_barred` : what happens to a message that fails a gate.
* `settled_of_course` : a message leaves the rows alone, or has done what its intent means.
* `authorised_writes` : every change of the rows has an author.
-/

namespace BukuKas

open Calendar (Date)

/-! ## What an intent leaves alone -/

/-- An intent leaves the rows of all users but that of the chat as they are. -/
theorem Standing.ownRows_after {st last : Standing} {today : Date} {intent : Intent} {user : Int}
    (h : st.after today intent = some last) (huser : st.chat.user ≠ user) :
    ownRows user last.rows = ownRows user st.rows := by
  let untouched (other : Standing) : Prop :=
    other.chat.user ≠ user ∧ ownRows user other.rows = ownRows user st.rows
  have hlast : untouched last := by
    refine after_induction ?_ ?_ ?_ h ⟨huser, rfl⟩
    · rintro first next e hrecord ⟨hother, hrows⟩
      obtain ⟨amount, rfl⟩ := of_record hrecord
      refine ⟨hother, ?_⟩
      have hnew : (Row.ofEntry first.next first.chat.user amount e).user ≠ user := hother
      rw [← hrows]
      simp [ownRows, hnew]
    · rintro first id ⟨hother, hrows⟩
      refine ⟨hother, ?_⟩
      rw [← hrows]
      show (List.filter _ first.rows).filter _ = first.rows.filter _
      rw [List.filter_filter]
      apply List.filter_congr
      intro r _
      by_cases hr : r.user = user
      · have hne : r.user ≠ first.chat.user := fun hsame => hother (hsame.symm.trans hr)
        simp [hne]
      · simp [hr]
    · rintro first chat hchat - ⟨hother, hrows⟩
      refine ⟨?_, hrows⟩
      rw [← hchat]
      exact hother
  exact hlast.2

namespace Message

variable {c : Circumstances} {plan : FaultPlan} {m : Message} {s : Service}

/-! ## Gates -/

/-- A message fails a gate: it is no text, comes from a group, from a phone that is not let in, is
blank, or is said without a chat and is no login, no logout and no call for help. -/
inductive Barred (c : Circumstances) (s : Service) (m : Message) : Prop where
  | noText (htext : m.kind ≠ .text) (hchat : m.kind ≠ .chat)
  | group (h : Sender.isGroup m.sender = true)
  | unlisted (hlist : Sender.allowed c.settings.allowedPhones ≠ [])
      (h : m.phone ∉ Sender.allowed c.settings.allowedPhones)
  | blank (h : ∀ char ∈ (m.text.getD "").toList, Text.isBlank char = true)
  | stranger (hchat : s.chats.get? m.phone = none)
      (hlogin : Account.isLogin (Text.lower m.trimmed) = false)
      (hlogout : Text.lower m.trimmed ≠ Account.logoutCommand.toList)
      (hhelp : ∀ command ∈ helpCommands, Text.lower m.trimmed ≠ command.toList)

/-- What it takes to be listened to. -/
theorem isHeard_iff {settings : Settings} : m.isHeard settings = true ↔
    (m.kind = .text ∨ m.kind = .chat) ∧ Sender.isGroup m.sender = false ∧
      (Sender.allowed settings.allowedPhones = [] ∨
        m.phone ∈ Sender.allowed settings.allowedPhones) ∧
      ∃ char ∈ (m.text.getD "").toList, Text.isBlank char = false := by
  have hkind : m.kind.isText = true ↔ m.kind = .text ∨ m.kind = .chat := by
    cases m.kind <;> simp [MessageKind.isText]
  have hblank : m.trimmed = [] ↔ ∀ char ∈ (m.text.getD "").toList, Text.isBlank char = true :=
    Text.trim_eq_nil_iff
  have hspoken : m.trimmed ≠ [] ↔ ∃ char ∈ (m.text.getD "").toList, Text.isBlank char = false := by
    rw [ne_eq, hblank]
    simp
  unfold isHeard Settings.admits Sender.admits
  simp only [Bool.and_eq_true, Bool.not_eq_true', List.isEmpty_eq_false_iff, Bool.or_eq_true,
    List.isEmpty_iff, List.contains_iff_mem, hkind, hspoken, and_assoc]

/-- A message that fails a gate is passed over, without a call to the ledger. -/
theorem handle_of_barred {today : Date} (hdate : c.localDate m.sentAt = .ok today)
    (h : m.Barred c s) : m.handle c plan s = (.ok .ignored, s.desk) := by
  rw [handle_eq]
  cases hheard : m.isHeard c.settings with
  | false =>
      rw [request_eq_none_iff.mpr hheard]
      rfl
  | true =>
      obtain ⟨hkind, hgroup, hlisted, char, hchar, hblank⟩ := isHeard_iff.mp hheard
      cases h with
      | noText htext hchat =>
          rcases hkind with hkind | hkind
          · exact absurd hkind htext
          · exact absurd hkind hchat
      | group h => exact nomatch hgroup.symm.trans h
      | unlisted hlist h =>
          rcases hlisted with hnone | hmem
          · exact absurd hnone hlist
          · exact absurd hmem h
      | blank h => exact nomatch hblank.symm.trans (h char hchar)
      | stranger hchat hlogin hlogout hhelp =>
          rw [request_of_isHeard hheard hdate, ofText_eq_speech hlogin hlogout hhelp, hchat]
          rfl

/-! ## Authors -/

/-- A message leaves the rows as they are, or it is listened to, is answered with a success, and has
done what its intent means in the chat of its phone. -/
theorem settled_of_course {result : Except Fault Response} {after : Desk}
    (hcourse : Course c plan m s result after) : after.service.ledger.rows = s.ledger.rows ∨
      ∃ r today chat intent last, result = .ok r ∧ r.status = .ok ∧ m.isHeard c.settings = true ∧
        m.intent? c = some intent ∧ s.chats.get? m.phone = some chat ∧
        (s.standing chat).after today intent = some last ∧
        after.service = s.settled m.phone last := by
  by_cases hsuccess : ∃ r, result = .ok r ∧ r.status = .ok
  · obtain ⟨r, rfl, hstatus⟩ := hsuccess
    cases hcourse with
    | unheard | stranger | failed | unsearchable => exact nomatch hstatus
    | addressless | notLoggedIn | loggedOut | helped => exact .inl rfl
    | unknown hrequest email => exact .inl (by rw [service_findUser])
    | loggedIn hrequest email => exact .inl (by rw [service_loggedIn])
    | @answered today text chat intent reply d hrequest hchat hread hrun hcommit =>
        obtain ⟨last, hafter, hservice⟩ := service_of_answered hchat hrun hcommit
        refine .inr ⟨_, today, chat, intent, last, rfl, hstatus, (of_request hrequest).1, ?_,
          hchat, hafter, hservice⟩
        rw [intent?, hrequest]
        show (Command.classify text today).toOption = some intent
        rw [hread]
        rfl
  · have hstatus : ∀ r, result = .ok r → r.status ≠ .ok := fun r hr hok => hsuccess ⟨r, hr, hok⟩
    obtain ⟨n, -, hservice⟩ := onlyCounted_of_course hcourse hstatus
    exact .inl (by rw [hservice])

/-- A message that changes the rows of a user is answered with a success, is listened to, and comes
from a phone with a chat of that user. -/
theorem author_of_course {result : Except Fault Response} {after : Desk}
    (hcourse : Course c plan m s result after) (user : Int) :
    ownRows user after.service.ledger.rows = ownRows user s.ledger.rows ∨
      ∃ r chat, result = .ok r ∧ r.status = .ok ∧ m.isHeard c.settings = true ∧
        s.chats.get? m.phone = some chat ∧ chat.user = user := by
  rcases settled_of_course hcourse with
    hrows | ⟨r, today, chat, intent, last, rfl, hstatus, hheard, -, hchat, hafter, hservice⟩
  · exact .inl (by rw [hrows])
  · by_cases huser : chat.user = user
    · exact .inr ⟨r, chat, rfl, hstatus, hheard, hchat, huser⟩
    · left
      rw [hservice]
      exact Standing.ownRows_after hafter huser

end Message

/-- Somebody may change the rows of a user at a moment: a message that was answered with a success
is a text, comes from no group and from a phone that is let in, and the phone has a chat of the
user. -/
def Moment.Authorises (user : Int) (now : Moment) : Prop :=
  ∃ c plan m r chat, now.event = .message c plan m ∧ now.met = .response (.ok r) ∧ r.status = .ok ∧
    (m.kind = .text ∨ m.kind = .chat) ∧ Sender.isGroup m.sender = false ∧
    (Sender.allowed c.settings.allowedPhones = [] ∨
      m.phone ∈ Sender.allowed c.settings.allowedPhones) ∧
    now.before.chats.get? m.phone = some chat ∧ chat.user = user

/-- At a moment without an author the rows of a user stay as they are. -/
theorem Moment.author_ofEvent (e : Event) (s : Service) (user : Int) :
    (Moment.ofEvent e s).Authorises user ∨
      ownRows user (e.happen s).2.ledger.rows = ownRows user s.ledger.rows := by
  cases e with
  | job threshold plan today gateway which =>
      right
      show ownRows user (which.run threshold plan today gateway s).2.service.ledger.rows = _
      rw [Job.service_run]
  | message c plan m =>
      rcases Message.author_of_course (Message.course_of_handle c plan m s) user with
        hsame | ⟨r, chat, hr, hstatus, hheard, hchat, huser⟩
      · exact .inr hsame
      · obtain ⟨hkind, hgroup, hlisted, -⟩ := Message.isHeard_iff.mp hheard
        exact .inl ⟨c, plan, m, r, chat, rfl, congrArg Encounter.response hr, hstatus,
          hkind, hgroup, hlisted, hchat, huser⟩

/-- Where the rows of its user stay as they are, a row neither comes nor goes. -/
theorem mem_iff_of_ownRows {rows other : List Row} {row : Row}
    (h : ownRows row.user other = ownRows row.user rows) : row ∈ other ↔ row ∈ rows := by
  have hmem (part : List Row) : row ∈ ownRows row.user part ↔ row ∈ part := by
    simp [ownRows]
  rw [← hmem, h, hmem]

namespace History

variable {es : List Event} {s : Service}

/-- Each moment is that of an event. -/
theorem exists_of_mem_moments {now : Moment} (h : now ∈ moments es s) :
    ∃ e before, now = .ofEvent e before := by
  induction es generalizing s with
  | nil => exact nomatch h
  | cons e es ih =>
      rcases List.mem_cons.mp h with hfirst | hlater
      · exact ⟨e, s, hfirst⟩
      · exact ih hlater

/-- What is so in the end and was not so in the beginning became so at some moment. -/
theorem exists_moment {P : Service → Prop} (hend : P (after es s)) (hstart : ¬P s) :
    ∃ now ∈ moments es s, ¬P now.before ∧ P now.after := by
  induction es generalizing s with
  | nil => exact absurd hend hstart
  | cons e es ih =>
      by_cases hnext : P (e.happen s).2
      · exact ⟨.ofEvent e s, List.mem_cons_self, hstart, hnext⟩
      · obtain ⟨now, hnow, hbefore, hafter⟩ := ih hend hnext
        exact ⟨now, List.mem_cons_of_mem _ hnow, hbefore, hafter⟩

/-- A row that has come or gone at a moment has an author. -/
theorem author_of_change {now : Moment} (hnow : now ∈ moments es s) {row : Row}
    (h : ¬(row ∈ now.after.ledger.rows ↔ row ∈ now.before.ledger.rows)) :
    now.Authorises row.user := by
  obtain ⟨e, before, rfl⟩ := exists_of_mem_moments hnow
  rcases Moment.author_ofEvent e before row.user with hauthor | hsame
  · exact hauthor
  · exact absurd (mem_iff_of_ownRows hsame) h

end History

/-- Every row that a history brings in or takes away, for good or for a while, comes or goes at a
moment that has an author, who is logged in as the user of the row; and a message that fails a gate
writes nothing, since it is passed over without a call to the ledger. -/
theorem authorised_writes (es : List Event) (s : Service) :
    (∀ row ∈ (History.after es s).ledger.rows, row ∉ s.ledger.rows →
      ∃ now ∈ History.moments es s, row ∉ now.before.ledger.rows ∧ row ∈ now.after.ledger.rows ∧
        now.Authorises row.user) ∧
    (∀ row ∈ s.ledger.rows, row ∉ (History.after es s).ledger.rows →
      ∃ now ∈ History.moments es s, row ∈ now.before.ledger.rows ∧ row ∉ now.after.ledger.rows ∧
        now.Authorises row.user) ∧
    (∀ now ∈ History.moments es s, ∀ user,
      now.Authorises user ∨
      ownRows user now.after.ledger.rows = ownRows user now.before.ledger.rows) ∧
    ∀ (c : Circumstances) (plan : FaultPlan) (m : Message) (t : Service) (today : Date),
      c.localDate m.sentAt = .ok today → m.Barred c t →
      (m.handle c plan t).1 = .ok { status := .ignored, reply := none, attachment := none } ∧
        (m.handle c plan t).2.calls = [] ∧ (m.handle c plan t).2.service = t := by
  refine ⟨fun row hend hstart => ?_, fun row hstart hend => ?_, fun now hnow user => ?_, ?_⟩
  · obtain ⟨now, hnow, hbefore, hafter⟩ :=
      History.exists_moment (P := fun t => row ∈ t.ledger.rows) hend hstart
    exact ⟨now, hnow, hbefore, hafter,
      History.author_of_change hnow fun hiff => hbefore (hiff.mp hafter)⟩
  · obtain ⟨now, hnow, hbefore, hafter⟩ :=
      History.exists_moment (P := fun t => row ∉ t.ledger.rows) hend (not_not_intro hstart)
    have hmem := Decidable.not_not.mp hbefore
    exact ⟨now, hnow, hmem, hafter,
      History.author_of_change hnow fun hiff => hafter (hiff.mpr hmem)⟩
  · obtain ⟨e, before, rfl⟩ := History.exists_of_mem_moments hnow
    exact Moment.author_ofEvent e before user
  · intro c plan m t today hdate hbarred
    rw [Message.handle_of_barred hdate hbarred]
    exact ⟨rfl, rfl, rfl⟩

/-- The first expense of somebody who has logged in has an author; the same text from a group is
passed over. -/
theorem authorised_writes_of_first_expense :
    let s : Service := { ledger := { users := [⟨1, "budi@gmail.com", none⟩] } }
    let c : Circumstances := { settings := {}, now := ⟨1792378800⟩ }
    let sends (sender text : String) : Message := { sender := sender, text := some text }
    let es : List Event := [.message c .none (sends "62@c.us" "!login budi@gmail.com"),
      .message c .none (sends "62@c.us" "kopi 20k")]
    let group := sends "62@g.us" "kopi 20k"
    (∃ row ∈ (History.after es s).ledger.rows, row.user = 1 ∧
      ∃ now ∈ History.moments es s, row ∉ now.before.ledger.rows ∧ row ∈ now.after.ledger.rows ∧
        now.Authorises row.user) ∧
      (group.handle c .none s).1 = .ok { status := .ignored, reply := none, attachment := none } ∧
      (group.handle c .none s).2.calls = [] ∧ (group.handle c .none s).2.service = s := by
  intro s c sends es group
  have husers : (History.after es s).ledger.rows.map Row.user = [1] := by decide +kernel
  obtain ⟨row, hrows, huser⟩ := List.map_eq_singleton_iff.mp husers
  have hrow : row ∈ (History.after es s).ledger.rows := by simp [hrows]
  have hnew : row ∉ s.ledger.rows := List.not_mem_nil
  have hdate : c.localDate group.sentAt = .ok ⟨2026, 10, 19, by decide⟩ := by decide +kernel
  obtain ⟨hcame, -, -, hpassed⟩ := authorised_writes es s
  exact ⟨⟨row, hrow, huser, hcame row hrow hnew⟩,
    hpassed c .none group s _ hdate (.group (by decide +kernel))⟩

end BukuKas
