import BukuKas.Proofs.Session.Tenure
import BukuKas.Proofs.Undo.Reference

/-!
# Chats are replayed histories

The user of a chat, its alert and its reminders can be told from what the phone itself has done:
from its logins that were greeted, its logouts, and what it said of its alert and its reminders and
was answered with a success.  Nothing else that happens has any influence on them: not what other
phones do, be it as the same user, not what fails, and not a login that is turned down.

Every event leads from the tenure that the chat shows to the one after the act of the event, if the
event is an act of the phone at all; so a history leads to the tenure of its acts.

## Main results

* `tenure_happen` : what one event does to the tenure that a chat shows.
* `tenure_after` : the chat after a history shows the tenure of the acts of its phone.
* `chat_of_acts` : who has a chat, and what is in it, by the history alone.
-/

namespace BukuKas

open Calendar (Date)

/-! ## Logins that are greeted -/

namespace Account

/-- What the greeting of a user who has logged in begins with. -/
def welcome : String := "✅ *Login berhasil!*"

end Account

/-- The reply greets a user who has logged in. -/
def Response.welcomes (r : Response) : Bool :=
  r.reply.any fun text => Account.welcome.toList.isPrefixOf text.toList

namespace Account

theorem welcomes_greeting (name : String) :
    (Response.ofText (greeting name)).welcomes = true := by
  have hprefix : welcome.toList <+: (greeting name).toList := by
    unfold greeting Reply.joinLines
    rw [String.toList_intercalate, List.map_cons, List.map_cons, List.intercalate_cons_cons,
      List.append_assoc]
    exact List.prefix_append welcome.toList _
  rw [Response.welcomes, Response.ofText, Option.any_some, List.isPrefixOf_iff_prefix]
  exact hprefix

theorem not_welcomes_unknownAddress (address : String) :
    (Response.ofText (unknownAddress address)).welcomes = false := by
  simp [Response.welcomes, Response.ofText, unknownAddress, welcome, List.isPrefixOf]

/-- A login greets the user who has the address in its text, and begins the chat of this user; or it
greets nobody and leaves the chats as they are. -/
theorem run_login {plan : FaultPlan} {phone : String} (text : List Char) (d : Desk) :
    (∃ user, Ledger.userByEmail d.draft.ledger.users (String.ofList (addressIn text)) = some user ∧
      (login text).run plan phone d =
        (.ok (.ofText (greeting (greeted user (d.chats.get? phone)).name)),
          ((d.ask plan (.findUser (String.ofList (addressIn text)))).2.enter phone
            (greeted user (d.chats.get? phone))))) ∨
    ∃ r, ((login text).run plan phone d).1 = .ok r ∧ r.welcomes = false ∧
      ((login text).run plan phone d).2.chats = d.chats := by
  unfold login
  dsimp only
  generalize hemail : String.ofList (addressIn text) = email
  split
  · rw [Work.run_bind_eq, Work.run_attempt, Work.run_query]
    have hchats : (d.ask plan (.findUser email)).2.chats = d.chats := d.chats_ask (.findUser email)
    cases hlooked : (d.ask plan (.findUser email)).1 with
    | error fault =>
        right
        dsimp only
        rw [Work.run_bind_eq, Work.run_attempt, Work.run_query]
        exact ⟨.failed lookupFailure, rfl, by decide, (Desk.chats_ask _ _).trans hchats⟩
    | ok found =>
        have hfound : Ledger.userByEmail d.draft.ledger.users email = found := by
          have hperform := (Desk.perform_of_ask hlooked).1
          injection hperform
        cases (found : Option User) with
        | none =>
            exact .inr ⟨.ofText (unknownAddress email), rfl, not_welcomes_unknownAddress email,
              hchats⟩
        | some user =>
            refine .inl ⟨user, hfound, ?_⟩
            rw [← hchats]
            rfl
  · exact .inr ⟨.ofText usage, rfl, by decide, rfl⟩

end Account
/-! ## Acts of a phone -/

/-- The act of an intent, if its chat depends on it. -/
def Act.ofIntent? : Intent → Option Act
  | .setAlert enabled => some (.alert enabled)
  | .addReminder name day => some (.remind name day)
  | .deleteReminder index => some (.unremind index)
  | _ => none

/-- What a phone did at a moment that its chat depends on.  A login counts when it was greeted; it
is one as the user who has the address in its text. -/
def Moment.act? (phone : String) (now : Moment) : Option Act :=
  match now.request? phone with
  | none => none
  | some (.login text) =>
      if now.met.response?.any Response.welcomes then
        (Ledger.userByEmail now.before.ledger.users (String.ofList (Account.addressIn text))).map
          fun user => .login user.id
      else none
  | some .logout => some .logout
  | some request => request.intent?.bind Act.ofIntent?

/-- What a phone did in a history that its chat depends on, in order. -/
def History.acts (phone : String) (es : List Event) (s : Service) : List Act :=
  (History.moments es s).filterMap (Moment.act? phone)

/-- The tenure that a chat shows. -/
def Tenure.ofChat (chat : Chat) : Tenure := ⟨chat.user, ⟨chat.alert, chat.reminders⟩⟩

/-- The tenure that the chat of a phone shows, if there is one. -/
def Service.tenure? (s : Service) (phone : String) : Option Tenure :=
  (s.chats.get? phone).map Tenure.ofChat

namespace Tenure

/-- The tenure after what may have been an act. -/
def afterAct (tenure : Option Tenure) (act : Option Act) : Option Tenure :=
  act.elim tenure (next tenure)

/-! ## What a message does to a chat -/

/-- A login as a user begins or carries on what the chat shows. -/
theorem ofChat_greeted (user : User) (previous : Option Chat) :
    some (ofChat (Account.greeted user previous)) =
      next (previous.map ofChat) (.login user.id) := by
  cases previous with
  | none => rfl
  | some chat =>
      by_cases hsame : chat.user = user.id
      · simp [Account.greeted, next, ofChat, Chat.restore, hsame]
      · simp [Account.greeted, next, ofChat, hsame]

/-- What records, takes back or removes a row leaves what the chat shows. -/
theorem ofChat_after {st last : Standing} {today : Date} {intent : Intent}
    (h : st.after today intent = some last) :
    some (ofChat last.chat) = afterAct (some (ofChat st.chat)) (Act.ofIntent? intent) := by
  cases hasks : intent.asksOnly with
  | true =>
      rw [Standing.after_of_asksOnly hasks] at h
      injection h with h
      subst h
      cases intent <;> first | rfl | cases hasks
  | false =>
      have hrecord {first next : Standing} {e : Entry} (hnext : first.record e = some next)
          (hfirst : ofChat first.chat = ofChat st.chat) : ofChat next.chat = ofChat st.chat := by
        obtain ⟨amount, rfl⟩ := Standing.of_record hnext
        exact hfirst
      cases intent with
      | add e => exact congrArg some (hrecord h rfl)
      | addMany es =>
          exact congrArg some (Standing.recordAll_induction
            (P := fun other => ofChat other.chat = ofChat st.chat) (fun _ => hrecord) h rfl)
      | undo =>
          injection h with h
          subst h
          unfold Standing.takeBack
          cases st.chat.last <;> rfl
      | delete index =>
          injection h with h
          subst h
          unfold Standing.removeListed
          cases Reply.nth? (Ledger.listDay st.rows st.chat.user today) index with
          | none => rfl
          | some row =>
              dsimp only
              split <;> rfl
      | addReminder name day =>
          injection h with h
          subst h
          rfl
      | deleteReminder index =>
          injection h with h
          subst h
          simp only [Standing.unremind, Act.ofIntent?, afterAct, Option.elim, next, Option.map_some,
            Setup.after, ofChat]
          cases Reply.nth? st.chat.reminders index <;> rfl
      | setAlert enabled =>
          injection h with h
          subst h
          rfl
      | _ => cases hasks

end Tenure

section Messages

variable {phone : String} {c : Circumstances} {plan : FaultPlan} {m : Message} {s : Service}

/-- A message leaves the chats of all other phones as they are. -/
theorem Message.get?_of_course (hphone : m.phone ≠ phone) {result : Except Fault Response}
    {after : Desk} (hcourse : Course c plan m s result after) :
    after.service.chats.get? phone = s.chats.get? phone := by
  cases hcourse with
  | unheard | undated | addressless | notLoggedIn | helped | stranger | unread => rfl
  | unsearchable hrequest email => rw [service_unsearchable]
  | unknown hrequest email => rw [service_findUser]
  | loggedIn hrequest email hfound =>
      rw [service_loggedIn]
      exact Roster.get?_set_of_ne s.chats hphone.symm _
  | loggedOut hrequest hchat => exact Roster.get?_erase_of_ne s.chats hphone.symm
  | answered hrequest hchat hread hrun hcommit =>
      obtain ⟨st, -, hservice⟩ := service_of_answered hchat hrun hcommit
      rw [hservice]
      exact Roster.get?_set_of_ne s.chats hphone.symm st.chat
  | failed hrequest hchat hread hrun hgood hcounted =>
      obtain ⟨n, -, hservice⟩ := hcounted
      rw [hservice]

/-- A login that is greeted is an act, as the user who has the address in its text. -/
theorem act?_of_greeted {text : List Char} (hrequest : m.request c = .ok (some (.login text)))
    {r : Response} (hok : r.status = .ok) (hgreets : r.welcomes = true) (after : Service) :
    (Moment.ofMessage c plan m s (.ok r) after).act? m.phone =
      (Ledger.userByEmail s.ledger.users (String.ofList (Account.addressIn text))).map
        fun user => .login user.id := by
  unfold Moment.act?
  rw [request?_of_ok rfl hok hrequest]
  exact if_pos hgreets

/-- A login that is not greeted is no act. -/
theorem act?_of_turned_down {text : List Char} (hrequest : m.request c = .ok (some (.login text)))
    {r : Response} (hgreets : r.welcomes = false) (after : Service) :
    (Moment.ofMessage c plan m s (.ok r) after).act? m.phone = none := by
  unfold Moment.act?
  by_cases hok : r.status = .ok
  · rw [request?_of_ok rfl hok hrequest]
    exact if_neg (Bool.eq_false_iff.mp hgreets)
  · rw [request?_of_not_ok fun other hother _ => by
      injection hother with hother
      exact hother ▸ hok]

/-- A login begins or carries on the tenure of the user whom it greets, if it greets anybody. -/
theorem tenure_login {text : List Char} (hrequest : m.request c = .ok (some (.login text))) :
    (m.handle c plan s).2.service.tenure? m.phone =
      Tenure.afterAct (s.tenure? m.phone)
        ((Moment.ofMessage c plan m s (m.handle c plan s).1
          (m.handle c plan s).2.service).act? m.phone) := by
  have hhandle : m.handle c plan s = (Account.login text).run plan m.phone s.desk := by
    rw [Message.handle_eq, hrequest]
    rfl
  rw [hhandle]
  rcases Account.run_login text s.desk with ⟨user, huser, hrun⟩ | ⟨r, hresult, hgreets, hchats⟩
  · replace huser : Ledger.userByEmail s.ledger.users _ = some user := huser
    rw [hrun, act?_of_greeted hrequest rfl (Account.welcomes_greeting _), huser]
    show (Roster.get? (Roster.set _ _ _) _).map Tenure.ofChat = _
    rw [Roster.get?_set_self]
    exact Tenure.ofChat_greeted user (s.chats.get? m.phone)
  · rw [hresult, act?_of_turned_down hrequest hgreets]
    show (Roster.get? ((Account.login text).run plan m.phone s.desk).2.chats _).map _ = _
    rw [hchats]
    rfl

/-- A message of the phone itself that is no login and is met with a success. -/
theorem tenure_own (hlogin : ∀ text, m.request c ≠ .ok (some (.login text))) {r : Response}
    {after : Desk} (hok : r.status = .ok) (hcourse : Message.Course c plan m s (.ok r) after) :
    after.service.tenure? m.phone =
      Tenure.afterAct (s.tenure? m.phone)
        ((Moment.ofMessage c plan m s (.ok r) after.service).act? m.phone) := by
  have hasked {request : Request} (hrequest : m.request c = .ok (some request)) :
      (Moment.ofMessage c plan m s (.ok r) after.service).request? m.phone = some request :=
    request?_of_ok rfl hok hrequest
  unfold Moment.act?
  cases hcourse with
  | unheard | stranger | unsearchable | failed => exact nomatch hok
  | addressless hrequest | unknown hrequest | loggedIn hrequest => exact absurd hrequest (hlogin _)
  | notLoggedIn hrequest hchat =>
      rw [hasked hrequest]
      simp [Service.tenure?, hchat, Tenure.afterAct, Tenure.next]
  | loggedOut hrequest hchat =>
      rw [hasked hrequest]
      show (Roster.get? (Roster.erase _ _) _).map _ = _
      rw [Roster.get?_erase_self]
      rfl
  | helped hrequest =>
      rw [hasked hrequest]
      rfl
  | @answered today text chat intent reply d hrequest hchat hread hrun hcommit =>
      obtain ⟨st, hafter, hservice⟩ := Message.service_of_answered hchat hrun hcommit
      have hintent : (Request.speech today text).intent? = some intent := by
        simp [Request.intent?, hread, Except.toOption]
      rw [hasked hrequest, hservice]
      dsimp only
      rw [hintent, Option.bind_some]
      show (Roster.get? (Roster.set _ _ _) _).map _ = Tenure.afterAct (Option.map _ _) _
      rw [Roster.get?_set_self, hchat]
      exact Tenure.ofChat_after hafter

end Messages

/-! ## What a history does to a chat -/

/-- One event leads from the tenure that a chat shows to the one after the act of the event, if it
is an act of the phone. -/
theorem tenure_happen (e : Event) (s : Service) (phone : String) :
    (e.happen s).2.tenure? phone =
      Tenure.afterAct (s.tenure? phone) ((Moment.ofEvent e s).act? phone) := by
  cases e with
  | job threshold plan today gateway which =>
      show (which.run threshold plan today gateway s).2.service.tenure? phone = s.tenure? phone
      rw [Job.service_run]
  | message c plan m =>
      have hcourse := Message.course_of_handle c plan m s
      by_cases hphone : m.phone = phone
      · subst hphone
        by_cases hlogin : ∃ text, m.request c = .ok (some (.login text))
        · obtain ⟨text, hrequest⟩ := hlogin
          exact tenure_login hrequest
        · show (m.handle c plan s).2.service.tenure? m.phone = Tenure.afterAct _
            ((Moment.ofMessage c plan m s (m.handle c plan s).1
              (m.handle c plan s).2.service).act? m.phone)
          generalize (m.handle c plan s).1 = result at hcourse ⊢
          generalize (m.handle c plan s).2 = after at hcourse ⊢
          by_cases hok : ∃ r, result = .ok r ∧ r.status = .ok
          · obtain ⟨r, rfl, hr⟩ := hok
            exact tenure_own (fun text hrequest => hlogin ⟨text, hrequest⟩) hr hcourse
          · have hnot : ∀ r, result = .ok r → r.status ≠ .ok := fun r hr hstatus =>
              hok ⟨r, hr, hstatus⟩
            unfold Moment.act?
            rw [request?_of_not_ok fun r hr _ => hnot r hr]
            obtain ⟨n, -, hservice⟩ := Message.onlyCounted_of_course hcourse hnot
            rw [hservice]
            rfl
      · have hact : (Moment.ofEvent (.message c plan m) s).act? phone = none := by
          show (Moment.ofMessage c plan m s (m.handle c plan s).1
            (m.handle c plan s).2.service).act? phone = none
          unfold Moment.act?
          rw [request?_of_not_ok fun _ _ hsame => absurd hsame hphone]
        rw [hact]
        exact congrArg (Option.map Tenure.ofChat) (Message.get?_of_course hphone hcourse)

/-- The chat after a history shows the tenure that the acts of its phone lead to. -/
theorem tenure_after (es : List Event) (s : Service) (phone : String) :
    (History.after es s).tenure? phone =
      (History.acts phone es s).foldl Tenure.next (s.tenure? phone) := by
  induction es generalizing s with
  | nil => rfl
  | cons e es ih =>
      show (History.after es (e.happen s).2).tenure? phone = _
      rw [ih, tenure_happen]
      simp only [History.acts, History.moments, List.filterMap_cons]
      cases (Moment.ofEvent e s).act? phone <;> rfl

/-- From a service without chats on, who has a chat and what is in it is told by the history of the
phone alone.  A phone has a chat if it has logged in and not logged out since.  The user is that of
its latest login.  The alert and the reminders are what the phone has set since its latest unbroken
stretch of logins as this user began.  Phones that did the same things have the same in their
chats, whatever else has happened around them. -/
theorem chat_of_acts {s : Service} (hs : s.chats = Roster.empty) (es : List Event)
    (phone : String) :
    (((History.after es s).chats.get? phone).isSome = true ↔
      ∃ earlier user later, History.acts phone es s = earlier ++ Act.login user :: later ∧
        Act.logout ∉ later) ∧
    (∀ chat, (History.after es s).chats.get? phone = some chat →
      (∀ earlier user later, History.acts phone es s = earlier ++ Act.login user :: later →
        (∀ other, Act.login other ∉ later) → chat.user = user) ∧
      ∃ earlier stretch, History.acts phone es s = earlier ++ stretch ∧
        Act.Unbroken chat.user stretch ∧
        (∀ longer, longer <:+ earlier → ¬Act.Unbroken chat.user longer) ∧
        chat.alert = (Setup.replay stretch).alert ∧
        chat.reminders = (Setup.replay stretch).reminders) ∧
    ∀ (es' : List Event) (s' : Service) (phone' : String), s'.chats = Roster.empty →
      History.acts phone' es' s' = History.acts phone es s →
      ((History.after es' s').chats.get? phone').map
          (fun chat => (chat.user, chat.alert, chat.reminders)) =
        ((History.after es s).chats.get? phone).map
          fun chat => (chat.user, chat.alert, chat.reminders) := by
  have hcurrent {s : Service} (hs : s.chats = Roster.empty) (es : List Event) (phone : String) :
      (History.after es s).tenure? phone = Tenure.current (History.acts phone es s) := by
    rw [tenure_after]
    simp [Service.tenure?, hs, Tenure.current]
  refine ⟨?_, ?_, ?_⟩
  · rw [← Tenure.current_isSome_iff, ← hcurrent hs, Service.tenure?, Option.isSome_map]
  · intro chat hchat
    have htenure : Tenure.current (History.acts phone es s) = some (Tenure.ofChat chat) := by
      rw [← hcurrent hs, Service.tenure?, hchat, Option.map_some]
    refine ⟨fun earlier user later hacts hlatest =>
      Tenure.user_eq_of_latest htenure hacts hlatest, ?_⟩
    obtain ⟨earlier, stretch, hacts, hstretch, hlongest, hsetup⟩ := Tenure.of_current htenure
    exact ⟨earlier, stretch, hacts, hstretch, hlongest, congrArg Setup.alert hsetup,
      congrArg Setup.reminders hsetup⟩
  · intro es' s' phone' hs' hacts
    have htenure : (History.after es' s').tenure? phone' = (History.after es s).tenure? phone := by
      rw [hcurrent hs', hcurrent hs, hacts]
    have hview := congrArg (Option.map fun t : Tenure => (t.user, t.setup.alert, t.setup.reminders))
      htenure
    simp only [Service.tenure?, Option.map_map] at hview
    exact hview

/-- Two phones of one user, one of which also fails to log in as somebody else: in its chat is what
it would be without the other phone and without the failure. -/
theorem chat_of_acts_of_two_phones :
    let s : Service := { ledger := { users := [⟨1, "budi@gmail.com", none⟩] } }
    let c : Circumstances := { settings := {}, now := ⟨1792378800⟩ }
    let sends (sender text : String) : Event :=
      .message c .none { sender := sender, text := some text }
    let es : List Event := [sends "62@c.us" "!login budi@gmail.com",
      sends "63@c.us" "!login budi@gmail.com", sends "62@c.us" "!ingat listrik 5",
      sends "63@c.us" "!ingat air 7", sends "62@c.us" "!login siti@gmail.com"]
    let alone : List Event :=
      [sends "62@c.us" "!login budi@gmail.com", sends "62@c.us" "!ingat listrik 5"]
    s.chats = Roster.empty ∧ ((History.after es s).chats.get? "62").isSome = true ∧
      (∀ chat, (History.after es s).chats.get? "62" = some chat → chat.user = 1) ∧
      ((History.after alone s).chats.get? "62").map
          (fun chat => (chat.user, chat.alert, chat.reminders)) =
        ((History.after es s).chats.get? "62").map
          fun chat => (chat.user, chat.alert, chat.reminders) := by
  intro s c sends es alone
  have hes : History.acts "62" es s = [.login 1, .remind "listrik" 5] := by decide +kernel
  have halone : History.acts "62" alone s = [.login 1, .remind "listrik" 5] := by decide +kernel
  obtain ⟨hhas, hchat, hsame⟩ := chat_of_acts (s := s) rfl es "62"
  refine ⟨rfl, hhas.mpr ⟨[], 1, [.remind "listrik" 5], hes, by simp⟩, fun chat hfound => ?_, ?_⟩
  · exact (hchat chat hfound).1 [] 1 [.remind "listrik" 5] hes fun other => by simp
  · exact hsame alone s "62" rfl (halone.trans hes.symm)

end BukuKas
