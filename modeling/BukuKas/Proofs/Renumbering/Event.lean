import BukuKas.Proofs.Job
import BukuKas.Proofs.Message.Course
import BukuKas.Proofs.Renumbering.Reply

/-!
# Events do not show numbers

What holds of answers holds of everything that happens to a service: a login greets in the same way
and carries the changed last recording over, a failed answer is put right in the changed chat, a job
sends the same notices.  So an event is met with the same on a service with changed numbers, and the
services differ by the same renumbering afterwards.

## Main results

* `mirrors_work` : the work of every message mirrors itself, with the same response.
* `happen_renumbered` : every event is met with the same.
-/

namespace BukuKas

variable {base : Int} (g : Renumbering base)

/-! ## Messages -/

namespace Account

theorem greeted_renumbered (user : User) (previous : Option Chat) :
    greeted user (previous.map g.chat) = g.chat (greeted user previous) := by
  cases previous with
  | none => rfl
  | some chat =>
      unfold greeted
      dsimp only [Option.map_some]
      have huser : (g.chat chat).user = chat.user := rfl
      rw [huser]
      split <;> rfl

theorem mirrors_login (text : List Char) : (login text).Mirrors g id (login text) := by
  unfold login
  dsimp only
  split
  · apply Work.Mirrors.bind (Work.mirrors_query g (.findUser _)).attempt
    intro looked
    cases looked with
    | error fault =>
        exact Work.Mirrors.bind (Work.mirrors_query g .rollback).attempt fun _ => .done _
    | ok found =>
        cases (found : Option User) with
        | none => exact .done _
        | some user =>
            apply Work.Mirrors.bind (Work.mirrors_chat? g)
            intro previous
            rw [greeted_renumbered]
            exact .enter _ (.done _)
  · exact .done _

theorem mirrors_logout : logout.Mirrors g id logout := by
  apply Work.Mirrors.bind (Work.mirrors_chat? g)
  intro chat
  cases chat with
  | none => exact .done _
  | some chat => exact .leave (.done _)

end Account

namespace Message

theorem mirrors_settle (o : Occasion) (chat : Chat) (intent : Intent) :
    (settle o (some chat) intent).Mirrors g id (settle o (some (g.chat chat)) intent) := by
  apply Work.Mirrors.bind (Reply.mirrors_answer g o chat intent)
  intro reply
  exact Work.Mirrors.bind (Work.mirrors_query g .commit) fun _ => .done _

theorem mirrors_makeGood (saved : Chat) :
    (makeGood saved).Mirrors g id (makeGood (g.chat saved)) := by
  have hrestore : (restore saved).Mirrors g id (restore (g.chat saved)) := by
    apply Work.Mirrors.bind (Work.mirrors_chat? g)
    intro found
    cases found with
    | none => exact .done _
    | some chat => exact Work.mirrors_put g (chat.restore saved)
  apply Work.Mirrors.bind hrestore
  intro _
  exact Work.Mirrors.bind (Work.mirrors_query g .rollback).attempt fun _ => .done _

theorem mirrors_settleOrRestore (o : Occasion) (chat : Chat) (intent : Intent) :
    (settleOrRestore o chat intent).Mirrors g id (settleOrRestore o (g.chat chat) intent) := by
  apply Work.Mirrors.bind (mirrors_settle g o chat intent).attempt
  intro result
  cases result with
  | ok reply => exact .done _
  | error fault => exact Work.Mirrors.bind (mirrors_makeGood g chat) fun _ => .done _

theorem mirrors_converse (c : Circumstances) (today : Calendar.Date) (text : List Char) :
    (converse c today text).Mirrors g id (converse c today text) := by
  apply Work.Mirrors.bind (Work.mirrors_chat? g)
  intro chat
  cases chat with
  | none => exact .done _
  | some chat =>
      apply Work.Mirrors.bind (Work.mirrors_ofExcept g _)
      intro intent
      exact mirrors_settleOrRestore g _ chat intent

/-- The work of every message mirrors itself, with the same response. -/
theorem mirrors_work (c : Circumstances) (m : Message) : (m.work c).Mirrors g id (m.work c) := by
  refine .look fun chat => ?_
  rw [Option.isSome_map, errand_eq]
  cases m.request c with
  | error fault => exact .fail fault
  | ok request =>
      cases request with
      | none => exact .done _
      | some request =>
          cases request with
          | login text => exact Account.mirrors_login g text
          | logout => exact Account.mirrors_logout g
          | help => exact .done _
          | speech today text =>
              cases chat with
              | none => exact .done _
              | some chat => exact mirrors_converse g c today text

end Message

/-! ## Jobs -/

namespace Job

open Calendar (Date)
open Number (Binary64)

variable (threshold : Binary64) (today : Date)

theorem mirrors_notice (job : Job) (chat : Chat) :
    (job.notice threshold today chat).Mirrors g id (job.notice threshold today (g.chat chat)) := by
  cases job with
  | morning => exact .done _
  | budgetCheck =>
      show Work.Mirrors g id (if chat.alert = true then _ else _)
        (if chat.alert = true then _ else _)
      split
      · exact Work.Mirrors.bind (Work.mirrors_self g (Reply.keeps_budgetStatus chat.user)) fun _ =>
          .done _
      · exact .done _
  | reminders => exact .done _
  | evening =>
      apply Work.Mirrors.query_listToday chat.user today
      intro rows
      rw [List.isEmpty_map]
      exact .done _
  | night =>
      exact Work.Mirrors.bind (Work.mirrors_self g (Reply.keeps_moodOf chat.user today)) fun _ =>
        .done _

theorem mirrors_serve (job : Job) (gateway : String → Gateway.Answer) (phone : String)
    (chat : Chat) :
    (job.serve threshold today gateway phone chat).Mirrors g id
      (job.serve threshold today gateway phone (g.chat chat)) := by
  refine Work.Mirrors.bind (Work.Mirrors.attempt (f := id) ?_) fun result => ?_
  · apply Work.Mirrors.bind (mirrors_notice g threshold today job chat)
    intro text
    cases text with
    | none => exact .done _
    | some text => exact Work.Mirrors.bind (Work.mirrors_ofExcept g _) fun _ => .done _
  · cases result with
    | ok outcome => exact .done _
    | error fault =>
        exact Work.Mirrors.bind (Work.mirrors_query g .rollback).attempt fun _ => .done _

theorem mirrors_runOver (job : Job) (gateway : String → Gateway.Answer)
    (chats : List (String × Chat)) :
    (job.runOver threshold today gateway chats).Mirrors g id
      (job.runOver threshold today gateway (chats.map fun item => (item.1, g.chat item.2))) := by
  induction chats with
  | nil => exact .done _
  | cons first rest ih =>
      obtain ⟨phone, chat⟩ := first
      apply Work.Mirrors.bind (mirrors_serve g threshold today job gateway phone chat)
      intro _
      exact Work.Mirrors.bind ih fun _ => .done _

theorem mirrors_work (job : Job) (gateway : String → Gateway.Answer) (chats : Roster Chat) :
    (job.work threshold today gateway chats.items).Mirrors g id
      (job.work threshold today gateway (chats.mapValues g.chat).items) :=
  Work.Mirrors.bind (mirrors_runOver g threshold today job gateway chats.items) fun _ => .done _

end Job

/-! ## Events -/

/-- The second service is the first one with its numbers changed. -/
structure Service.Renumbered (g : Renumbering base) (s t : Service) : Prop where
  ledger : s.ledger.Renumbered g t.ledger
  chats : t.chats = s.chats.mapValues g.chat

variable {g}

theorem Service.Renumbered.desk {s t : Service} (h : s.Renumbered g t) :
    s.desk.Renumbered g t.desk :=
  ⟨⟨h.ledger, rfl⟩, h.chats, rfl⟩

theorem Desk.Renumbered.service {d e : Desk} (h : d.Renumbered g e) :
    d.service.Renumbered g e.service :=
  ⟨h.draft.ledger, h.chats⟩

/-- Every event is met with the same, and keeps the renumbering. -/
theorem happen_renumbered {s t : Service} (h : s.Renumbered g t) (e : Event) :
    (e.happen t).1 = (e.happen s).1 ∧ (e.happen s).2.Renumbered g (e.happen t).2 := by
  cases e with
  | message c plan m =>
      obtain ⟨hresult, hdesk⟩ := Work.mirrors_run (Message.mirrors_work g c m) plan m.phone h.desk
      refine ⟨congrArg Encounter.response ?_, hdesk.service⟩
      exact hresult.trans (congrFun Except.map_id _)
  | job threshold plan today gateway which =>
      have hwork := Job.mirrors_work g threshold today which gateway s.chats
      rw [← h.chats] at hwork
      obtain ⟨hresult, hdesk⟩ := Work.mirrors_run hwork plan "" h.desk
      refine ⟨congrArg Encounter.run ?_, hdesk.service⟩
      exact hresult.trans (congrFun Except.map_id _)

end BukuKas
