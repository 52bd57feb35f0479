import BukuKas.History
import BukuKas.Proofs.Message.Course

/-!
# Moments of a history

What a history looks like from outside: for each event the service before it, what it was met with,
and the service after it.  What is said of one moment may look back at the moments before it, so the
induction over a history carries its past along.

## Main results

* `Moment.message_of_intent?`, `Moment.intent?_of_handle` : what phones have asked for at a moment.
* `moments_induction` : what holds in the beginning, and from moment to moment, holds at each
  moment.
-/

namespace BukuKas

/-- An event of a history, between the services before and after it. -/
structure Moment where
  before : Service
  event : Event
  met : Encounter
  after : Service

namespace Moment

/-- The moment of an event that happens to a service. -/
def ofEvent (e : Event) (s : Service) : Moment where
  before := s
  event := e
  met := (e.happen s).1
  after := (e.happen s).2

/-- What a phone asked for at a moment, when it was answered with a success. -/
def request? (phone : String) (now : Moment) : Option Request :=
  match now.event, now.met with
  | .message c _ m, .response (.ok r) =>
      if m.phone = phone ∧ r.status = .ok then (m.request c).toOption.join else none
  | _, _ => none

/-- The intent of a phone at a moment, when it was answered with a success. -/
def intent? (phone : String) (now : Moment) : Option Intent :=
  (now.request? phone).bind Request.intent?

/-- The row that was recorded last at a moment, if any was. -/
def newest? (now : Moment) : Option Row :=
  (now.after.ledger.rows.filter fun r => r ∉ now.before.ledger.rows).getLast?

section Intents

variable {e : Event} {s : Service} {phone : String} {intent : Intent}

/-- What a phone asked for with success was said in a message of the phone. -/
theorem message_of_intent? (h : (ofEvent e s).intent? phone = some intent) : ∃ c plan m r,
    e = .message c plan m ∧ m.phone = phone ∧ (m.handle c plan s).1 = .ok r ∧ r.status = .ok ∧
      m.intent? c = some intent := by
  cases e with
  | job threshold plan today gateway which => exact nomatch h
  | message c plan m =>
      cases hr : (m.handle c plan s).1 with
      | error fault => simp [intent?, request?, ofEvent, Event.happen, hr] at h
      | ok r =>
          by_cases hok : m.phone = phone ∧ r.status = .ok
          · refine ⟨c, plan, m, r, rfl, hok.1, hr, hok.2, ?_⟩
            simpa [intent?, request?, ofEvent, Event.happen, hr, hok, Message.intent?] using h
          · simp [intent?, request?, ofEvent, Event.happen, hr, hok] at h

/-- What is said in a message that is answered with a success is asked for by its phone. -/
theorem intent?_of_handle {c : Circumstances} {plan : FaultPlan} {m : Message} {r : Response}
    (hr : (m.handle c plan s).1 = .ok r) (hstatus : r.status = .ok)
    (hintent : m.intent? c = some intent) :
    (ofEvent (.message c plan m) s).intent? m.phone = some intent := by
  simpa [intent?, request?, ofEvent, Event.happen, hr, hstatus, Message.intent?] using hintent

end Intents

end Moment

namespace History

/-- The moments of a history. -/
def moments : List Event → Service → List Moment
  | [], _ => []
  | e :: es, s => .ofEvent e s :: moments es (e.happen s).2

/-- What holds in the beginning, and from moment to moment, holds at each moment. -/
theorem moments_induction {P : List Moment → Service → Prop} {es : List Event} {s : Service}
    (hstep : ∀ past e s, P past s → P (past ++ [.ofEvent e s]) (e.happen s).2)
    {earlier past : List Moment} {now : Moment} {future : List Moment} (hs : P earlier s)
    (h : moments es s = past ++ now :: future) :
    ∃ e before, now = .ofEvent e before ∧ P (earlier ++ past) before := by
  induction es generalizing s earlier past with
  | nil => simp [moments] at h
  | cons e es ih =>
      cases past with
      | nil =>
          obtain ⟨rfl, -⟩ := List.cons.inj h
          rw [List.append_nil]
          exact ⟨e, s, rfl, hs⟩
      | cons first past =>
          obtain ⟨rfl, hrest⟩ := List.cons.inj h
          have hnext := ih (hstep earlier e s hs) hrest
          rw [List.append_assoc, List.singleton_append] at hnext
          exact hnext

end History

end BukuKas
