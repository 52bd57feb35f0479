import BukuKas.History
import BukuKas.Proofs.Reply.Rule
import BukuKas.Proofs.Work.Frame

/-!
# Jobs change nothing

A job reads for one user after the other, and gives the reading up where it fails.  It writes no row
and saves no chat, so a service is after a job what it was before.

## Main results

* `service_run` : no job changes the service, whatever fails meanwhile.
-/

namespace BukuKas

open Calendar (Date)
open Number (Binary64)

/-- The work reads for anybody or gives its writes up, and saves nothing. -/
def Rule.browsing : Rule where
  asks q := q.reads = true ∨ q = .rollback
  saves _ := False

theorem Rule.reading_within_browsing (user : Int) : (reading user).Within browsing :=
  ⟨fun _ h => .inl h.2, fun _ h => h, fun h => h⟩

/-- Browsing changes nothing where nothing was written. -/
theorem Work.service_of_browsing {α : Type} {fits : α → Prop} {plan : FaultPlan} {phone : String}
    {t : Work α} (h : t.Keeps Rule.browsing fits) {d : Desk} (hd : d.draft.writes = []) :
    (t.run plan phone d).2.service = d.service := by
  induction t generalizing d with
  | done a => rfl
  | fail fault => rfl
  | ask q next ih =>
      have hwrites : (d.ask plan q).2.draft.writes = [] := by
        rcases Desk.draft_ask plan d q with hdraft | hdraft
        · rw [hdraft, hd]
        · rcases h.1 with hreads | rfl
          · rw [hdraft, d.draft.perform_of_reads hreads, hd]
          · rw [hdraft]
            rfl
      have hservice : (d.ask plan q).2.service = d.service := by
        refine Desk.service_ask (fun e _ => ?_) d hd
        rcases h.1 with hreads | rfl
        · rw [e.perform_of_reads hreads]
        · rfl
      exact (ih _ (h.2 _) hwrites).trans hservice
  | look next ih => exact ih _ (h.2 _) hd
  | save chat next ih => exact h.1.elim
  | enter chat next ih => exact h.elim
  | leave next ih => exact h.elim

namespace Job

variable (threshold : Binary64) (today : Date)

/-- A notice is worked out by reading for the user of the chat. -/
theorem keeps_notice (chat : Chat) (job : Job) :
    (job.notice threshold today chat).Keeps (Rule.reading chat.user) fun _ => True := by
  cases job with
  | morning => trivial
  | budgetCheck =>
      show Work.Keeps _ _ (if chat.alert = true then _ else _)
      split
      · refine Work.keeps_bind (?_ : Work.Keeps _ (fun _ => True) _) fun status _ => trivial
        exact Work.keeps_mono (Reply.keeps_budgetStatus chat.user)
          (Rule.sums_within_reading chat.user) fun _ h => h
      · trivial
  | reminders => trivial
  | evening => exact Work.keeps_bind (Work.keeps_query ⟨rfl, rfl⟩) fun _ _ => trivial
  | night =>
      refine Work.keeps_bind (?_ : Work.Keeps _ (fun _ => True) _) fun found _ => trivial
      exact Work.keeps_mono (Reply.keeps_moodOf chat.user today)
        (Rule.sums_within_reading chat.user) fun _ _ => trivial

theorem keeps_serve (job : Job) (gateway : String → Gateway.Answer) (phone : String) (chat : Chat) :
    (job.serve threshold today gateway phone chat).Keeps Rule.browsing fun _ => True := by
  have hnotice := Work.keeps_mono (keeps_notice threshold today chat job)
    (Rule.reading_within_browsing chat.user) fun _ h => h
  refine Work.keeps_bind (Work.keeps_attempt (?_ : Work.Keeps _ (fun _ => True) _)) fun result _ =>
    ?_
  · apply Work.keeps_bind hnotice
    intro text _
    cases text with
    | none => trivial
    | some text => exact Work.keeps_bind (Work.keeps_ofExcept _) fun _ _ => trivial
  · cases result with
    | ok outcome => trivial
    | error fault =>
        exact Work.keeps_bind (Work.keeps_attempt (Work.keeps_query (.inr rfl))) fun _ _ => trivial

theorem keeps_runOver (job : Job) (gateway : String → Gateway.Answer)
    (chats : List (String × Chat)) :
    (job.runOver threshold today gateway chats).Keeps Rule.browsing fun _ => True := by
  induction chats with
  | nil => trivial
  | cons first rest ih =>
      obtain ⟨phone, chat⟩ := first
      apply Work.keeps_bind (keeps_serve threshold today job gateway phone chat)
      intro _ _
      exact Work.keeps_bind ih fun _ _ => trivial

/-- No job changes the service. -/
theorem service_run (plan : FaultPlan) (gateway : String → Gateway.Answer) (job : Job)
    (s : Service) :
    (job.run threshold plan today gateway s).2.service = s := by
  have hkeeps : (job.work threshold today gateway s.chats.items).Keeps Rule.browsing fun _ =>
      True :=
    Work.keeps_bind (keeps_runOver threshold today job gateway s.chats.items) fun _ _ => trivial
  exact Work.service_of_browsing hkeeps rfl

end Job

end BukuKas
