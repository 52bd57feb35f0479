import BukuKas.Proofs.Message.Course

/-!
# Messages are atomic

A message that is not met with a success has no effect.  There are three ways to this: nothing was
done at all; an answer failed and was put right; or an answer succeeded in silence, which happens
only for what was not understood, and then nothing was written.

## Main results

* `onlyCounted_of_status_ne_ok` : without a success, only the counter of row numbers can have gone
  on.
* `onlyCounted_of_course` : the same of each course.
-/

namespace BukuKas

namespace Message

variable {c : Circumstances} {plan : FaultPlan} {m : Message} {s : Service}

theorem service_findUser (s : Service) (email : String) :
    (s.desk.ask plan (.findUser email)).2.service = s :=
  Desk.service_ask (fun _ _ => rfl) s.desk rfl

/-- A commit without writes changes nothing. -/
theorem service_commit (s : Service) : (s.desk.ask plan .commit).2.service = s := by
  refine Desk.service_ask (fun d hd => ?_) s.desk rfl
  show { d.ledger with rows := Write.applyAll d.ledger.rows d.writes } = d.ledger
  rw [hd]
  rfl

theorem service_unsearchable (s : Service) (email : String) :
    ((s.desk.ask plan (.findUser email)).2.ask plan .rollback).2.service = s := by
  have hwrites : (s.desk.ask plan (.findUser email)).2.draft.writes = [] := by
    rw [Desk.draft_ask_of_reads plan s.desk rfl]
    rfl
  rw [Desk.service_ask (fun _ _ => rfl) _ hwrites, service_findUser]

theorem service_loggedIn (s : Service) (email phone : String) (chat : Chat) :
    ((s.desk.ask plan (.findUser email)).2.enter phone chat).service =
      { s with chats := s.chats.set phone chat } := by
  have hservice : (s.desk.ask plan (.findUser email)).2.service = s := service_findUser s email
  show Service.mk (s.desk.ask plan (.findUser email)).2.service.ledger
    ((s.desk.ask plan (.findUser email)).2.service.chats.set phone chat) = _
  rw [hservice]

/-- A silent answer is one to a text that was not understood, and writes nothing. -/
theorem desk_of_silent {o : Occasion} {chat : Chat} {intent : Intent} {reply : Reply}
    {d after : Desk}
    (hrun : (Reply.answer o (some chat) intent).run plan m.phone d = (.ok reply, after))
    (hsilent : reply.text = none) : after = d := by
  obtain ⟨text, hintent⟩ := (Work.fits_of_run (Reply.keeps_answer o chat intent) hrun).1 hsilent
  subst hintent
  exact (Prod.mk.inj hrun).2.symm

/-- A course that does not end with a success leaves the service as it was, up to the counter. -/
theorem onlyCounted_of_course {result : Except Fault Response} {after : Desk}
    (hcourse : Course c plan m s result after) (h : ∀ r, result = .ok r → r.status ≠ .ok) :
    s.OnlyCounted after.service := by
  cases hcourse with
  | unheard | undated | stranger | unread => exact Service.OnlyCounted.refl s
  | unsearchable hrequest email =>
      rw [service_unsearchable]
      exact Service.OnlyCounted.refl s
  | addressless | unknown | loggedIn | notLoggedIn | loggedOut | helped =>
      exact absurd rfl (h _ rfl)
  | @answered today text chat intent reply d hrequest hchat hread hrun hcommit =>
      cases hsilent : reply.text with
      | none =>
          rw [desk_of_silent hrun hsilent, service_commit]
          exact Service.OnlyCounted.refl s
      | some spoken =>
          refine absurd ?_ (h _ rfl)
          simp [Response.ofReply, hsilent]
  | failed hrequest hchat hread hrun hgood hcounted => exact hcounted

/-- A message that is not met with a success leaves the ledger and the chats as they were, whatever
fails and wherever; only the counter of row numbers can have gone on. -/
theorem onlyCounted_of_status_ne_ok
    (h : ∀ r, (m.handle c plan s).1 = .ok r → r.status ≠ .ok) :
    s.OnlyCounted (m.handle c plan s).2.service :=
  onlyCounted_of_course (course_of_handle c plan m s) h

/-- The second of two expenses cannot be recorded: the first one is gone as well, and the chat still
refers to the recording before. -/
theorem onlyCounted_of_second_refused :
    let chat : Chat := { user := 1, email := "budi@gmail.com", name := "budi", last := some 7 }
    let s : Service := { ledger := { nextId := 8 }, chats := Roster.empty.set "62" chat }
    let m : Message := { sender := "62@c.us", text := some "kopi 20k, roti 15k" }
    let c : Circumstances := { settings := {}, now := ⟨1792378800⟩ }
    let plan : FaultPlan := fun duty call => duty == .insert && call == 2
    ((m.handle c plan s).1.toOption.map Response.status = some .error ∧
      (m.handle c plan s).2.service.ledger.nextId = 9) ∧
      s.OnlyCounted (m.handle c plan s).2.service := by
  intro chat s m c plan
  have hstatus : (m.handle c plan s).1.toOption.map Response.status = some .error ∧
      (m.handle c plan s).2.service.ledger.nextId = 9 := by decide +kernel
  refine ⟨hstatus, onlyCounted_of_status_ne_ok fun r hr hok => ?_⟩
  rw [hr] at hstatus
  exact nomatch hok.symm.trans (Option.some.inj hstatus.1)

end Message

end BukuKas
