import BukuKas.History
import BukuKas.Proofs.Reply.Rule
import BukuKas.Proofs.Work.Frame

/-!
# The course of a message

What a message asks for depends on the message alone, not on the service that it meets: a login, a
logout, help, or something said in a chat; or it is passed over.  `Message.request` reads this off.
What then happens is one of a dozen courses, and `Course` lists them with all that is known in each:
the result, and the desk at the end.  Everything that is proved of messages goes through this list.

## Main results

* `errand_eq` : the errand of a message is decided by its request and by whether there is a chat.
* `course_of_handle` : every message takes one of the courses.
-/

namespace BukuKas

open Calendar (Date)

/-- What a message that is listened to asks for. -/
inductive Request where
  | login (text : List Char)
  | logout
  | help
  /-- Something said in a chat, with the local date. -/
  | speech (today : Date) (text : List Char)

namespace Request

/-- What a text asks for on a date. -/
def ofText (today : Date) (text : List Char) : Request :=
  let lowered := Text.lower text
  if Account.isLogin lowered then .login text
  else if lowered == Account.logoutCommand.toList then .logout
  else if Message.helpCommands.any fun command => lowered == command.toList then .help
  else .speech today text

/-- The intent of what is said in a chat, if it can be read. -/
def intent? : Request → Option Intent
  | .speech today text => (Command.classify text today).toOption
  | _ => none

end Request

namespace Message

/-- What a message asks for: nothing if it is not listened to, a fault if it has no local date. -/
def request (c : Circumstances) (m : Message) : Except Fault (Option Request) :=
  match m.words? c.settings with
  | none => .ok none
  | some text =>
    match c.localDate m.sentAt with
    | .error fault => .error fault
    | .ok today => .ok (some (Request.ofText today text))

/-- The intent that a message has when it is said in a chat, if it has one. -/
def intent? (c : Circumstances) (m : Message) : Option Intent :=
  (m.request c).toOption.join.bind Request.intent?

/-- The errand of a request. -/
def errandOf (c : Circumstances) (hasChat : Bool) : Except Fault (Option Request) → Errand
  | .ok none => .atOnce (return .ignored)
  | .error fault => .atOnce (.fail fault)
  | .ok (some (.login text)) => .inTurn (Account.login text)
  | .ok (some .logout) => .atOnce Account.logout
  | .ok (some .help) => .atOnce (return .ofText Reply.help)
  | .ok (some (.speech today text)) =>
      if hasChat then .inTurn (converse c today text) else .atOnce (return .ignored)

/-- The errand of a message is decided by its request and by whether there is a chat. -/
theorem errand_eq (c : Circumstances) (m : Message) (hasChat : Bool) :
    m.errand c hasChat = errandOf c hasChat (m.request c) := by
  unfold errand request
  cases m.words? c.settings with
  | none => rfl
  | some text =>
      cases c.localDate m.sentAt with
      | error fault => rfl
      | ok today =>
          simp only [errandOn, Request.ofText]
          repeat' split
          all_goals simp_all [errandOf]

/-- How a message can go: its result and the desk in the end. -/
inductive Course (c : Circumstances) (plan : FaultPlan) (m : Message) (s : Service) :
    Except Fault Response → Desk → Prop where
  /-- The message is not listened to. -/
  | unheard (hrequest : m.request c = .ok none) : Course c plan m s (.ok .ignored) s.desk
  /-- The message has no local date. -/
  | undated {fault : Fault} (hrequest : m.request c = .error fault) :
      Course c plan m s (.error fault) s.desk
  /-- A login without an address. -/
  | addressless {text : List Char} (hrequest : m.request c = .ok (some (.login text))) :
      Course c plan m s (.ok (.ofText Account.usage)) s.desk
  /-- A login while users cannot be looked up. -/
  | unsearchable {text : List Char} (hrequest : m.request c = .ok (some (.login text)))
      (email : String) :
      Course c plan m s (.ok (.failed Account.lookupFailure))
        ((s.desk.ask plan (.findUser email)).2.ask plan .rollback).2
  /-- A login with an address that nobody has. -/
  | unknown {text : List Char} (hrequest : m.request c = .ok (some (.login text)))
      (email : String) :
      Course c plan m s (.ok (.ofText (Account.unknownAddress email)))
        (s.desk.ask plan (.findUser email)).2
  /-- A login as a user. -/
  | loggedIn {text : List Char} (hrequest : m.request c = .ok (some (.login text))) (email : String)
      {user : User} (hfound : Ledger.userByEmail s.ledger.users email = some user) :
      Course c plan m s
        (.ok (.ofText (Account.greeting (Account.greeted user (s.chats.get? m.phone)).name)))
        ((s.desk.ask plan (.findUser email)).2.enter m.phone
          (Account.greeted user (s.chats.get? m.phone)))
  /-- A logout of a phone without a chat. -/
  | notLoggedIn (hrequest : m.request c = .ok (some .logout))
      (hchat : s.chats.get? m.phone = none) :
      Course c plan m s (.ok (.ofText "ℹ️ Kamu belum login.")) s.desk
  /-- A logout. -/
  | loggedOut (hrequest : m.request c = .ok (some .logout)) {chat : Chat}
      (hchat : s.chats.get? m.phone = some chat) :
      Course c plan m s (.ok (.ofText "👋 Logout berhasil! Sampai jumpa.")) (s.desk.leave m.phone)
  /-- A call for help. -/
  | helped (hrequest : m.request c = .ok (some .help)) :
      Course c plan m s (.ok (.ofText Reply.help)) s.desk
  /-- Something said where there is no chat. -/
  | stranger {today : Date} {text : List Char}
      (hrequest : m.request c = .ok (some (.speech today text)))
      (hchat : s.chats.get? m.phone = none) :
      Course c plan m s (.ok .ignored) s.desk
  /-- Something that cannot be read. -/
  | unread {today : Date} {text : List Char} {chat : Chat} {fault : Fault}
      (hrequest : m.request c = .ok (some (.speech today text)))
      (hchat : s.chats.get? m.phone = some chat)
      (hread : Command.classify text today = .error fault) :
      Course c plan m s (.error fault) s.desk
  /-- Something that is answered, the answer being committed. -/
  | answered {today : Date} {text : List Char} {chat : Chat} {intent : Intent} {reply : Reply}
      {d : Desk} (hrequest : m.request c = .ok (some (.speech today text)))
      (hchat : s.chats.get? m.phone = some chat)
      (hread : Command.classify text today = .ok intent)
      (hrun : (Reply.answer (c.occasion today) (some chat) intent).run plan m.phone s.desk =
        (.ok reply, d))
      (hcommit : (d.ask plan .commit).1 = .ok ()) :
      Course c plan m s (.ok (.ofReply reply)) (d.ask plan .commit).2
  /-- Something whose answer fails, or cannot be committed. -/
  | failed {today : Date} {text : List Char} {chat : Chat} {intent : Intent} {fault : Fault}
      {d after : Desk} (hrequest : m.request c = .ok (some (.speech today text)))
      (hchat : s.chats.get? m.phone = some chat)
      (hread : Command.classify text today = .ok intent)
      (hrun : (settle (c.occasion today) (some chat) intent).run plan m.phone s.desk =
        (.error fault, d))
      (hgood : (makeGood chat).run plan m.phone d = (.ok (), after))
      (hcounted : s.OnlyCounted after.service) :
      Course c plan m s (.ok (.failed Reply.failure)) after

/-! ## Every message takes a course -/

section Courses

variable {c : Circumstances} {plan : FaultPlan} {m : Message} {s : Service}

theorem course_of_login {text : List Char} (hrequest : m.request c = .ok (some (.login text))) :
    Course c plan m s ((Account.login text).run plan m.phone s.desk).1
      ((Account.login text).run plan m.phone s.desk).2 := by
  unfold Account.login
  dsimp only
  split
  · let email := String.ofList (Account.addressIn text)
    show Course c plan m s
      (Work.run plan m.phone ((Work.query (.findUser email)).attempt >>= _) s.desk).1
      (Work.run plan m.phone ((Work.query (.findUser email)).attempt >>= _) s.desk).2
    rw [Work.run_bind_eq, Work.run_attempt, Work.run_query]
    cases hlooked : (s.desk.ask plan (.findUser email)).1 with
    | error fault =>
        dsimp only
        rw [Work.run_bind_eq, Work.run_attempt, Work.run_query]
        exact .unsearchable hrequest email
    | ok found =>
        have hfound : Ledger.userByEmail s.ledger.users email = found := by
          have hperform := (Desk.perform_of_ask hlooked).1
          injection hperform
        have hchats : (s.desk.ask plan (.findUser email)).2.chats = s.chats :=
          s.desk.chats_ask (.findUser email)
        cases (found : Option User) with
        | none => exact .unknown hrequest email
        | some user =>
            have hcourse : Course c plan m s _ _ := .loggedIn hrequest email hfound
            rw [← hchats] at hcourse
            exact hcourse
  · exact .addressless hrequest

/-- A logout ends the own chat, if there is one. -/
theorem run_logout (d : Desk) :
    Account.logout.run plan m.phone d =
      match d.chats.get? m.phone with
      | none => (.ok (.ofText "ℹ️ Kamu belum login."), d)
      | some _ => (.ok (.ofText "👋 Logout berhasil! Sampai jumpa."), d.leave m.phone) := by
  unfold Account.logout
  rw [Work.run_bind_of_ok (Work.run_chat? d)]
  cases d.chats.get? m.phone <;> rfl

theorem course_of_logout (hrequest : m.request c = .ok (some .logout)) :
    Course c plan m s (Account.logout.run plan m.phone s.desk).1
      (Account.logout.run plan m.phone s.desk).2 := by
  have hget : s.desk.chats.get? m.phone = s.chats.get? m.phone := rfl
  rw [run_logout, hget]
  cases hchat : s.chats.get? m.phone with
  | none => exact .notLoggedIn hrequest hchat
  | some chat => exact .loggedOut hrequest hchat

/-- Settling an answer is committing it. -/
theorem run_settle (o : Occasion) (chat : Chat) (intent : Intent) (d : Desk) :
    (settle o (some chat) intent).run plan m.phone d =
      match (Reply.answer o (some chat) intent).run plan m.phone d with
      | (.ok reply, mid) =>
          ((mid.ask plan .commit).1.map fun _ => reply, (mid.ask plan .commit).2)
      | (.error fault, mid) => (.error fault, mid) := by
  unfold settle
  rw [Work.run_bind_eq]
  rcases (Reply.answer o (some chat) intent).run plan m.phone d with ⟨result, mid⟩
  cases result with
  | error fault => rfl
  | ok reply =>
      refine (Work.run_bind_eq (Work.query .commit) (fun _ => .done reply) mid).trans ?_
      rw [Work.run_query]
      dsimp only
      rcases mid.ask plan .commit with ⟨answer, last⟩
      cases answer <;> rfl

/-- A settled answer is an answer that was committed. -/
theorem answered_of_settle {o : Occasion} {chat : Chat} {intent : Intent} {reply : Reply}
    {d after : Desk}
    (h : (settle o (some chat) intent).run plan m.phone d = (.ok reply, after)) :
    ∃ mid, (Reply.answer o (some chat) intent).run plan m.phone d = (.ok reply, mid) ∧
      (mid.ask plan .commit).1 = .ok () ∧ after = (mid.ask plan .commit).2 := by
  rw [run_settle] at h
  split at h
  · rename_i found mid hanswer
    obtain ⟨hvalue, hdesk⟩ := Prod.mk.inj h
    cases hcommit : (mid.ask plan .commit).1 with
    | error fault =>
        rw [hcommit] at hvalue
        exact nomatch hvalue
    | ok done =>
        rw [hcommit] at hvalue
        injection hvalue with hvalue
        exact ⟨mid, hvalue ▸ hanswer, hcommit, hdesk.symm⟩
  · exact nomatch (Prod.mk.inj h).1

/-- An answer that fails, or cannot be committed, has committed nothing. -/
theorem drafts_of_settle {o : Occasion} {chat : Chat} {intent : Intent} {fault : Fault} {d : Desk}
    (hchat : s.chats.get? m.phone = some chat)
    (h : (settle o (some chat) intent).run plan m.phone s.desk = (.error fault, d)) :
    d.Drafts s m.phone chat := by
  have hdrafts := Work.drafts_run (Reply.keeps_answer o chat intent) plan
    (Desk.drafts_desk hchat)
  rw [run_settle] at h
  split at h
  · rename_i reply mid hanswer
    rw [hanswer] at hdrafts
    obtain ⟨hvalue, hdesk⟩ := Prod.mk.inj h
    cases hcommit : (mid.ask plan .commit).1 with
    | error first => exact hdesk ▸ hdrafts.of_failed_commit hcommit
    | ok done =>
        rw [hcommit] at hvalue
        exact nomatch hvalue
  · rename_i first mid hanswer
    rw [hanswer] at hdrafts
    exact (Prod.mk.inj h).2 ▸ hdrafts

/-- Putting right succeeds, and brings back all but the counter. -/
theorem run_makeGood (plan : FaultPlan) {chat : Chat} {d : Desk}
    (hchat : s.chats.get? m.phone = some chat) (hd : d.Drafts s m.phone chat) :
    ∃ after, (makeGood chat).run plan m.phone d = (.ok (), after) ∧
    s.OnlyCounted after.service := by
  obtain ⟨new, hnew, hchats⟩ := hd.chats
  have hget : d.chats.get? m.phone = some new := by rw [hchats, Roster.get?_set_self]
  have hback : new.restore chat = chat := by
    rw [← hnew, Chat.restore_restore, Chat.restore_self]
  have hrestore : (restore chat).run plan m.phone d = (.ok (), d.save m.phone chat) := by
    unfold restore
    rw [Work.run_bind_of_ok (Work.run_chat? d), hget]
    dsimp only
    rw [hback, Work.run_put]
  have hsaved : (d.save m.phone chat).chats = s.chats := by
    unfold Desk.save
    rw [if_pos hd.contains]
    show d.chats.set m.phone chat = s.chats
    rw [hchats, Roster.set_set, Roster.set_of_get? hchat]
  have hledger := (hd.save chat.restore_self).ledger
  generalize d.save m.phone chat = e at hrestore hsaved hledger
  refine ⟨(e.ask plan .rollback).2, ?_, ?_⟩
  · unfold makeGood
    rw [Work.run_bind_of_ok hrestore, Work.run_bind_eq, Work.run_attempt, Work.run_query]
    rfl
  · obtain ⟨n, hn, hcount⟩ := hledger
    have hafter : (e.ask plan .rollback).2.draft.ledger = e.draft.ledger := by
      rcases Desk.draft_ask plan e .rollback with hdraft | hdraft
      · rw [hdraft]
      · rw [hdraft]
        rfl
    refine ⟨n, hn, ?_⟩
    unfold Desk.service
    rw [hafter, Desk.chats_ask, hsaved, hcount]

/-- What is said in a chat is read first; what can be read is settled. -/
theorem run_converse {today : Date} {text : List Char} {chat : Chat}
    (hchat : s.chats.get? m.phone = some chat) :
    (converse c today text).run plan m.phone s.desk =
      match Command.classify text today with
      | .error fault => (.error fault, s.desk)
      | .ok intent => (settleOrRestore (c.occasion today) chat intent).run plan m.phone s.desk := by
  have hlook : Work.chat?.run plan m.phone s.desk = (.ok (some chat), s.desk) := by
    rw [Work.run_chat?]
    exact congrArg (fun found => (Except.ok found, s.desk)) hchat
  unfold converse
  rw [Work.run_bind_of_ok hlook]
  dsimp only
  rw [Work.run_bind_eq, Work.run_ofExcept]
  cases Command.classify text today <;> rfl

theorem course_of_speech {today : Date} {text : List Char}
    (hrequest : m.request c = .ok (some (.speech today text))) {chat : Chat}
    (hchat : s.chats.get? m.phone = some chat) :
    Course c plan m s ((converse c today text).run plan m.phone s.desk).1
      ((converse c today text).run plan m.phone s.desk).2 := by
  rw [run_converse hchat]
  cases hread : Command.classify text today with
  | error fault => exact .unread hrequest hchat hread
  | ok intent =>
      dsimp only
      unfold settleOrRestore
      rw [Work.run_bind_eq, Work.run_attempt]
      rcases hrun : (settle (c.occasion today) (some chat) intent).run plan m.phone s.desk with
        ⟨result, d⟩
      cases result with
      | ok reply =>
          obtain ⟨mid, hanswer, hcommit, hdesk⟩ := answered_of_settle hrun
          rw [hdesk]
          exact .answered hrequest hchat hread hanswer hcommit
      | error fault =>
          obtain ⟨after, hgood, hcounted⟩ :=
            run_makeGood plan hchat (drafts_of_settle hchat hrun)
          dsimp only
          rw [Work.run_bind_of_ok hgood]
          exact .failed hrequest hchat hread hrun hgood hcounted

/-- Handling a message is running what its request and the chat of its phone come to. -/
theorem handle_eq (c : Circumstances) (plan : FaultPlan) (m : Message) (s : Service) :
    m.handle c plan s =
      (errandOf c (s.chats.get? m.phone).isSome (m.request c)).work.run plan m.phone s.desk := by
  rw [← errand_eq]
  rfl

/-- Every message takes one of the courses. -/
theorem course_of_handle (c : Circumstances) (plan : FaultPlan) (m : Message) (s : Service) :
    Course c plan m s (m.handle c plan s).1 (m.handle c plan s).2 := by
  rw [handle_eq]
  cases hrequest : m.request c with
  | error fault => exact .undated hrequest
  | ok request =>
      cases request with
      | none => exact .unheard hrequest
      | some request =>
          cases request with
          | login text => exact course_of_login hrequest
          | logout => exact course_of_logout hrequest
          | help => exact .helped hrequest
          | speech today text =>
              cases hchat : s.chats.get? m.phone with
              | none => exact .stranger hrequest hchat
              | some chat => exact course_of_speech hrequest hchat

end Courses

end Message

end BukuKas
