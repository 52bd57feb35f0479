import BukuKas.Proofs.Calendar.Count
import BukuKas.Proofs.Job
import BukuKas.Proofs.Roster
import BukuKas.Proofs.Work.Success
import Mathlib.Data.List.Forall2

/-!
# Chats do not disturb one another

A job serves one chat after the other in one unit of work.  Whatever fails for one of them, the job
goes on, and every chat is counted once.  What a chat is told depends on the rows, the periods and
the date, and on no other chat: the work for each of them only reads, and what is given up after a
failure is nothing but reading.  So a gateway that refuses some phones keeps the texts from these
phones and from no others.

From the eighth day of the calendar on no notice fails by itself, since the week that the notice of
the night looks back on is in the calendar.

## Main results

* `run_serve` : what serving one chat comes to.
* `run_isolates` : each chat is counted, and a gateway that fails for some chats fails for them
  alone.
-/

namespace BukuKas

open Calendar (Date)
open Number (Binary64)

/-! ## Work that only reads -/

/-- Whatever only reads is answered. -/
def Promise.reading : Promise where
  answers q := q.reads = true
  grants _ _ := True

theorem Promise.keptBy_reading : Promise.reading.KeptBy fun _ => True := by
  intro d q _ hreads
  refine ⟨?_, trivial⟩
  cases q <;> first | exact ⟨_, rfl, trivial⟩ | exact nomatch hreads

/-- When no call is made to fail, what is read depends on the draft alone. -/
theorem Work.run_none_of_reading {α : Type} {fits : α → Prop} {user : Int} {t : Work α}
    (h : t.Keeps (Rule.reading user) fits) {d other : Desk} (hsame : d.draft = other.draft)
    (phone : String) : (t.run .none phone d).1 = (t.run .none phone other).1 := by
  induction t generalizing d other with
  | done a => rfl
  | fail fault => rfl
  | ask q next ih =>
      have hanswer : (d.ask .none q).1 = (other.ask .none q).1 := by
        rw [(d.ask_none q).1, (other.ask_none q).1, hsame]
      have hafter : (d.ask .none q).2.draft = (other.ask .none q).2.draft := by
        rw [d.draft_ask_of_reads .none h.1.2, other.draft_ask_of_reads .none h.1.2, hsame]
      rw [run, run, hanswer]
      exact ih _ (h.2 _) hafter
  | look next ih => exact h.1.elim
  | save chat next ih => exact h.1.elim
  | enter chat next ih => exact h.elim
  | leave next ih => exact h.elim

/-! ## The gateway -/

/-- Whether an answer of the gateway refuses the text. -/
def Gateway.refuses (answer : Answer) : Bool :=
  match accept answer with
  | .ok _ => false
  | .error _ => true

namespace Job

variable (threshold : Binary64) (today : Date)

/-! ## Notices -/

/-- The first date with a week before it. -/
def firstNight : Date := ⟨1, 1, 8, by decide⟩

theorem number_firstNight : firstNight.number = 8 := by decide

theorem succeeds_shift (h : firstNight ≤ today) {days : Int} (hlow : -7 ≤ days) (hhigh : days ≤ 0)
    {promise : Promise} : (Reply.shift today days).Succeeds promise fun _ => True := by
  have hfirst := Date.number_le_of_le h
  rw [number_firstNight] at hfirst
  have hlast := today.number_le_lastNumber
  obtain ⟨e, he, -⟩ := Date.exists_addDays? today days (by omega) (by omega)
  unfold Reply.shift
  rw [he]
  trivial

/-- With a week before today no notice fails by itself. -/
theorem succeeds_notice (h : firstNight ≤ today) (chat : Chat) (job : Job) :
    (job.notice threshold today chat).Succeeds .reading fun _ => True := by
  have hsum (start stop : Date) :
      (Work.query (.sumExpenses chat.user start stop)).Succeeds .reading fun _ => True :=
    Work.succeeds_query rfl
  cases job with
  | morning => trivial
  | budgetCheck =>
      show Work.Succeeds _ _ (if chat.alert = true then _ else _)
      split
      · have hstatus : (Reply.budgetStatus chat.user).Succeeds .reading fun _ => True := by
          refine Work.succeeds_bind (Work.succeeds_query rfl) fun period _ => ?_
          cases (period : Option Period) with
          | none => trivial
          | some p => exact Work.succeeds_bind (hsum p.start p.stop) fun _ _ => trivial
        exact Work.succeeds_bind hstatus fun _ _ => trivial
      · trivial
  | reminders => trivial
  | evening => exact Work.succeeds_bind (Work.succeeds_query rfl) fun _ _ => trivial
  | night =>
      have hmood : (Reply.moodOf chat.user today).Succeeds .reading fun _ => True := by
        refine Work.succeeds_bind (hsum today today) fun spent _ => ?_
        refine Work.succeeds_bind (succeeds_shift today h (by decide) (by decide)) fun start _ => ?_
        refine Work.succeeds_bind (succeeds_shift today h (by decide) (by decide)) fun stop _ => ?_
        exact Work.succeeds_bind (hsum start stop) fun _ _ => trivial
      exact Work.succeeds_bind hmood fun _ _ => trivial

/-- What the routine of the job gives for a chat when it is run for that chat alone. -/
def alone (s : Service) (job : Job) (chat : Chat) : Except Fault (Option String) :=
  ((job.notice threshold today chat).run .none "" s.desk).1

/-- From the eighth day of the calendar on, every routine gives a text or silence. -/
theorem exists_alone (h : firstNight ≤ today) (s : Service) (job : Job) :
    ∃ said : Chat → Option String, ∀ chat, job.alone threshold today s chat = .ok (said chat) := by
  have hgives (chat : Chat) : ∃ text, job.alone threshold today s chat = .ok text := by
    obtain ⟨text, after, hrun, -⟩ :=
      Work.run_of_succeeds (succeeds_notice threshold today h chat job)
      Promise.keptBy_reading "" (d := s.desk) trivial
    exact ⟨text, by rw [alone, hrun]⟩
  exact ⟨fun chat => (hgives chat).choose, fun chat => (hgives chat).choose_spec⟩

/-! ## One chat -/

variable (plan : FaultPlan) (gateway : String → Gateway.Answer) (job : Job)

/-- What serving one chat comes to.  After a failure the reading is given up. -/
theorem run_serve (phone : String) (chat : Chat) (d : Desk) :
    (job.serve threshold today gateway phone chat).run plan "" d =
      match (job.notice threshold today chat).run plan "" d with
      | (.ok none, after) => (.ok .skipped, after)
      | (.ok (some text), after) =>
        if Gateway.refuses (gateway phone) then (.ok .failed, (after.ask plan .rollback).2)
        else (.ok (.sent phone text), after)
      | (.error _, after) => (.ok .failed, (after.ask plan .rollback).2) := by
  have hrollback (after : Desk) :
      ((Work.query .rollback).attempt >>= fun _ => Work.done Outcome.failed).run plan "" after =
        (.ok .failed, (after.ask plan .rollback).2) := by
    rw [Work.run_bind_eq, Work.run_attempt, Work.run_query]
    rfl
  unfold serve
  rw [Work.run_bind_eq, Work.run_attempt, Work.run_bind_eq]
  rcases (job.notice threshold today chat).run plan "" d with ⟨result, after⟩
  cases result with
  | error fault => exact hrollback after
  | ok text =>
      cases text with
      | none => rfl
      | some text =>
          dsimp only
          rw [Work.run_bind_eq, Work.run_ofExcept, Gateway.refuses]
          cases Gateway.accept (gateway phone) with
          | ok _ => rfl
          | error fault => exact hrollback after

/-- Serving one chat has an outcome, and a text is sent to its phone if at all. -/
theorem exists_outcome (phone : String) (chat : Chat) (d : Desk) :
    ∃ outcome after,
      (job.serve threshold today gateway phone chat).run plan "" d = (.ok outcome, after) ∧
      ∀ delivery ∈ outcome.delivery?, delivery.1 = phone := by
  rw [run_serve]
  split
  · exact ⟨_, _, rfl, nofun⟩
  · split
    · exact ⟨_, _, rfl, nofun⟩
    · refine ⟨_, _, rfl, fun delivery hdelivery => ?_⟩
      rw [← Option.some.inj (Option.mem_def.mp hdelivery)]
  · exact ⟨_, _, rfl, nofun⟩

/-- The outcome for a chat for which the routine gives this, when nothing but the gateway fails. -/
def Outcome.of (phone : String) (refused : Bool) : Option String → Outcome
  | none => .skipped
  | some text => if refused then .failed else .sent phone text

/-- Where the desk is as it was in the beginning, a chat is served as if it were alone, and the desk
is so again for the next one. -/
theorem run_serve_of_alone {s : Service} {chat : Chat} {said : Option String}
    (h : job.alone threshold today s chat = .ok said) (phone : String) {d : Desk}
    (hd : d.draft = s.desk.draft) :
    ∃ after, (job.serve threshold today gateway phone chat).run .none "" d =
        (.ok (Outcome.of phone (Gateway.refuses (gateway phone)) said), after) ∧
      after.draft = s.desk.draft := by
  have hkeeps := keeps_notice threshold today chat job
  have hresult : ((job.notice threshold today chat).run .none "" d).1 = .ok said :=
    (Work.run_none_of_reading hkeeps hd "").trans h
  have hafter := (Work.run_of_reading hkeeps .none "" d).1
  rw [run_serve]
  rcases hrun : (job.notice threshold today chat).run .none "" d with ⟨result, after⟩
  rw [hrun] at hresult hafter
  dsimp only at hresult hafter
  subst hresult
  cases said with
  | none => exact ⟨after, rfl, hafter.trans hd⟩
  | some text =>
      dsimp only [Outcome.of]
      split
      · refine ⟨_, rfl, ?_⟩
        rw [(after.ask_none .rollback).2, hafter, hd]
        rfl
      · exact ⟨after, rfl, hafter.trans hd⟩

/-! ## All chats -/

/-- A job has one outcome for each chat, and texts are sent to its phone alone. -/
theorem exists_outcomes (chats : List (String × Chat)) (d : Desk) :
    ∃ outcomes after,
      (job.runOver threshold today gateway chats).run plan "" d = (.ok outcomes, after) ∧
      List.Forall₂ (fun item outcome => ∀ delivery ∈ outcome.delivery?, delivery.1 = item.1)
        chats outcomes := by
  induction chats generalizing d with
  | nil => exact ⟨[], d, rfl, .nil⟩
  | cons item rest ih =>
      obtain ⟨phone, chat⟩ := item
      obtain ⟨outcome, mid, hfirst, hphone⟩ :=
        exists_outcome threshold today plan gateway job phone chat d
      obtain ⟨outcomes, after, hrest, hphones⟩ := ih mid
      refine ⟨outcome :: outcomes, after, ?_, .cons hphone hphones⟩
      rw [runOver, Work.run_bind_of_ok hfirst, Work.run_bind_of_ok hrest]
      rfl

/-- When nothing but the gateway fails, each chat is served as if it were alone. -/
theorem run_runOver {s : Service} {said : Chat → Option String}
    (h : ∀ chat, job.alone threshold today s chat = .ok (said chat)) (chats : List (String × Chat))
    {d : Desk} (hd : d.draft = s.desk.draft) :
    ((job.runOver threshold today gateway chats).run .none "" d).1 =
      .ok (chats.map fun item =>
        Outcome.of item.1 (Gateway.refuses (gateway item.1)) (said item.2)) := by
  induction chats generalizing d with
  | nil => rfl
  | cons item rest ih =>
      obtain ⟨phone, chat⟩ := item
      obtain ⟨mid, hfirst, hmid⟩ := run_serve_of_alone threshold today gateway job (h chat) phone hd
      have hrest := ih hmid
      rcases hrun : (job.runOver threshold today gateway rest).run .none "" mid with ⟨result, after⟩
      rw [hrun] at hrest
      dsimp only at hrest
      subst hrest
      rw [runOver, Work.run_bind_of_ok hfirst, Work.run_bind_of_ok hrun]
      rfl

/-- What a run amounts to is read off its outcomes. -/
theorem run_eq {s : Service} {outcomes : List Outcome}
    (h : ((job.runOver threshold today gateway s.chats.items).run plan "" s.desk).1 =
      .ok outcomes) :
    (job.run threshold plan today gateway s).1 =
      .ok ⟨Summary.ofOutcomes job outcomes, outcomes.filterMap Outcome.delivery?⟩ := by
  unfold run work
  rcases hrun : (job.runOver threshold today gateway s.chats.items).run plan "" s.desk
    with ⟨result, after⟩
  rw [hrun] at h
  dsimp only at h
  subst h
  rw [Work.run_bind_of_ok hrun]
  rfl

/-! ## Accounts -/

/-- The text that a phone received in a run, if it received one. -/
def Run.received (r : Run) (phone : String) : Option String := Roster.find? phone r.deliveries

/-- A run accounts for every chat once, as sent, skipped or failed, and what was sent is one text a
chat at most, in the order of the chats. -/
structure Run.Accounts (r : Run) (chats : Roster Chat) : Prop where
  sessions : r.summary.sessions = chats.size
  once : r.summary.sessions = r.summary.sent + r.summary.skipped + r.summary.failed
  sent : r.deliveries.length = r.summary.sent
  order : (r.deliveries.map Prod.fst).Sublist chats.names
  distinct : (r.deliveries.map Prod.fst).Nodup

theorem length_deliveries (outcomes : List Outcome) :
    (outcomes.filterMap Outcome.delivery?).length = outcomes.countP Outcome.isSent := by
  rw [List.length_filterMap_eq_countP]
  apply List.countP_congr
  intro outcome _
  cases outcome <;> exact Iff.rfl

theorem sublist_of_outcomes {chats : List (String × Chat)} {outcomes : List Outcome}
    (h : List.Forall₂ (fun item outcome => ∀ delivery ∈ outcome.delivery?, delivery.1 = item.1)
      chats outcomes) :
    ((outcomes.filterMap Outcome.delivery?).map Prod.fst).Sublist (chats.map Prod.fst) := by
  induction h with
  | nil => exact List.Sublist.slnil
  | @cons item outcome chats outcomes hphone _ ih =>
      rw [List.map_cons]
      cases hdelivery : outcome.delivery? with
      | none =>
          rw [List.filterMap_cons_none hdelivery]
          exact ih.cons _
      | some delivery =>
          rw [List.filterMap_cons_some hdelivery, List.map_cons, hphone delivery hdelivery]
          exact ih.cons_cons _

theorem accounts_of_outcomes {chats : Roster Chat} {outcomes : List Outcome}
    (h : List.Forall₂ (fun item outcome => ∀ delivery ∈ outcome.delivery?, delivery.1 = item.1)
      chats.items outcomes) :
    (Run.mk (Summary.ofOutcomes job outcomes) (outcomes.filterMap Outcome.delivery?)).Accounts chats
      where
  sessions := h.length_eq.symm
  once := accounts_ofOutcomes job outcomes
  sent := length_deliveries outcomes
  order := sublist_of_outcomes h
  distinct := chats.nodup.sublist (sublist_of_outcomes h)

/-- The texts that are sent when nothing but the gateway fails. -/
theorem deliveries_of (refused : String → Bool) (said : Chat → Option String)
    (chats : List (String × Chat)) :
    (chats.map fun item => Outcome.of item.1 (refused item.1) (said item.2)).filterMap
      Outcome.delivery? =
      chats.filterMap fun item =>
        (if refused item.1 then none else said item.2).map (item.1, ·) := by
  rw [List.filterMap_map]
  congr 1
  funext item
  simp only [Function.comp_apply, Outcome.of]
  cases said item.2 <;> cases refused item.1 <;> rfl

theorem failed_of (refused : String → Bool) (said : Chat → Option String)
    (chats : List (String × Chat)) :
    (chats.map fun item => Outcome.of item.1 (refused item.1) (said item.2)).count .failed =
      chats.countP fun item => refused item.1 && (said item.2).isSome := by
  rw [List.count_eq_countP, List.countP_map]
  apply List.countP_congr
  intro item _
  simp only [Function.comp_apply, Outcome.of]
  cases said item.2 <;> cases refused item.1 <;> simp

theorem skipped_of (refused : String → Bool) (said : Chat → Option String)
    (chats : List (String × Chat)) :
    (chats.map fun item => Outcome.of item.1 (refused item.1) (said item.2)).count .skipped =
      chats.countP fun item => (said item.2).isNone := by
  rw [List.count_eq_countP, List.countP_map]
  apply List.countP_congr
  intro item _
  simp only [Function.comp_apply, Outcome.of]
  cases said item.2 <;> cases refused item.1 <;> simp

/-- A run in which nothing but the gateway fails: the chats whose texts are refused have failed, and
every other chat received what its routine gives. -/
structure Run.Isolates (r : Run) (said : Chat → Option String) (refused : String → Bool)
    (chats : Roster Chat) : Prop where
  failed : r.summary.failed = chats.items.countP fun item => refused item.1 && (said item.2).isSome
  received : ∀ phone, r.received phone =
    if refused phone then none else (chats.get? phone).bind said

theorem isolates_of (said : Chat → Option String) (refused : String → Bool) (chats : Roster Chat) :
    let outcomes := chats.items.map fun item => Outcome.of item.1 (refused item.1) (said item.2)
    (Run.mk (Summary.ofOutcomes job outcomes) (outcomes.filterMap Outcome.delivery?)).Isolates
      said refused chats where
  failed := failed_of refused said chats.items
  received phone := by
    have hfind := Roster.find?_filterMap
      (fun name chat => if refused name then none else said chat) phone chats.nodup
    rw [Run.received, deliveries_of, hfind, Roster.get?]
    cases refused phone <;> cases Roster.find? phone chats.items <;> rfl

/-- Every chat is counted, and chats do not disturb one another.  Whatever calls and whatever texts
fail, a job runs to its end, accounts for every chat, and changes nothing.  From the eighth day of
the calendar on, the routine of the job gives a text or silence for each chat that it is run for
alone; and when nothing but the gateway fails, the chats that fail are those with a text that is
refused, and what every other phone receives is what the routine gives for it, as it would be if
nothing were refused. -/
theorem run_isolates (s : Service) :
    (∀ plan today gateway, ∃ r, (job.run threshold plan today gateway s).1 = .ok r ∧
      r.Accounts s.chats ∧
      (job.run threshold plan today gateway s).2.service = s) ∧
    ∀ today, firstNight ≤ today → ∃ said : Chat → Option String,
      (∀ chat, job.alone threshold today s chat = .ok (said chat)) ∧
      ∀ gateway, ∃ r, (job.run threshold .none today gateway s).1 = .ok r ∧
        r.Isolates said (fun phone => Gateway.refuses (gateway phone)) s.chats ∧
        ∀ calm, (∀ phone, Gateway.refuses (calm phone) = false) →
          ∃ r', (job.run threshold .none today calm s).1 = .ok r' ∧
            ∀ phone, Gateway.refuses (gateway phone) = false →
            r.received phone = r'.received phone := by
  refine ⟨fun plan today gateway => ?_, fun today hfirst => ?_⟩
  · obtain ⟨outcomes, after, hrun, hphones⟩ :=
      exists_outcomes threshold today plan gateway job s.chats.items s.desk
    exact ⟨_, run_eq threshold today plan gateway job (congrArg Prod.fst hrun),
      accounts_of_outcomes job hphones, service_run threshold today plan gateway job s⟩
  · obtain ⟨said, hsaid⟩ := exists_alone threshold today hfirst s job
    have hrun (gateway : String → Gateway.Answer) :
        ∃ r, (job.run threshold .none today gateway s).1 = .ok r ∧
          r.Isolates said (fun phone => Gateway.refuses (gateway phone)) s.chats :=
      ⟨_, run_eq threshold today .none gateway job
        (run_runOver threshold today gateway job hsaid s.chats.items rfl),
        isolates_of job said (fun phone => Gateway.refuses (gateway phone)) s.chats⟩
    refine ⟨said, hsaid, fun gateway => ?_⟩
    obtain ⟨r, hr, hisolates⟩ := hrun gateway
    refine ⟨r, hr, hisolates, fun calm hcalm => ?_⟩
    obtain ⟨r', hr', hcalmly⟩ := hrun calm
    refine ⟨r', hr', fun phone hphone => ?_⟩
    rw [hisolates.received, hcalmly.received, hphone, hcalm]

/-- Two chats in the morning, and a gateway that refuses the first of their phones. -/
theorem run_isolates_of_two_chats :
    let today : Date := ⟨2026, 10, 19, by decide⟩
    let ani : Chat := { user := 1, email := "ani@gmail.com", name := "ani" }
    let budi : Chat := { user := 2, email := "budi@gmail.com", name := "budi" }
    let s : Service := { chats := (Roster.empty.set "61" ani).set "62" budi }
    let gateway : String → Gateway.Answer := fun phone => if phone = "61" then .status 500
      else .status 200
    ∃ r, (Job.morning.run 1 .none today gateway s).1 = .ok r ∧ r.summary.failed = 1 ∧
      r.received "61" = none ∧ r.received "62" = some (morningNotice budi today) := by
  intro today ani budi s gateway
  obtain ⟨said, hsaid, hgateway⟩ := (run_isolates 1 .morning s).2 today (by decide)
  obtain ⟨r, hr, hisolates, -⟩ := hgateway gateway
  have hgiven (chat : Chat) : said chat = some (morningNotice chat today) :=
    (Except.ok.inj (hsaid chat)).symm
  have hrefused : Gateway.refuses (gateway "61") = true := by decide
  have htaken : Gateway.refuses (gateway "62") = false := by decide
  refine ⟨r, hr, ?_, ?_, ?_⟩
  · rw [hisolates.failed]
    simp only [hgiven]
    decide
  · rw [hisolates.received, hrefused, if_pos rfl]
  · rw [hisolates.received, htaken, ← hgiven]
    rfl

end Job

end BukuKas
