import BukuKas.Job
import BukuKas.Message.Handling

/-!
# Histories

What happens to a service, one event after the other: messages come in, each under circumstances of
its own, and jobs are run.  A history is judged by what each event was met with and by the service
in the end.

## Main results

* `run_append` : a history is run part by part.
* `length_run` : every event is met with something.
-/

namespace BukuKas

open Calendar (Date)
open Number (Binary64)

/-- Something that happens to a service, with the calls that fail meanwhile. -/
inductive Event where
  /-- A message comes in. -/
  | message (c : Circumstances) (plan : FaultPlan) (m : Message)
  /-- A job is run on a date, with a threshold for warnings and a gateway that answers each phone in
  its way. -/
  | job (threshold : Binary64) (plan : FaultPlan) (today : Date) (gateway : String → Gateway.Answer)
      (which : Job)

/-- What an event was met with. -/
inductive Encounter where
  | response (result : Except Fault Response)
  | run (result : Except Fault Job.Run)

namespace Encounter

/-- The response, when the event was a message that got one. -/
def response? : Encounter → Option Response
  | response (.ok r) => some r
  | _ => none

end Encounter

namespace Event

/-- What an event is met with, and the service after it. -/
def happen : Event → Service → Encounter × Service
  | message c plan m, s => (.response (m.handle c plan s).1, (m.handle c plan s).2.service)
  | job threshold plan today gateway which, s =>
    (.run (which.run threshold plan today gateway s).1,
      (which.run threshold plan today gateway s).2.service)

end Event

namespace History

/-- What the events of a history are met with, and the service in the end. -/
def run : List Event → Service → List Encounter × Service
  | [], s => ([], s)
  | e :: es, s => ((e.happen s).1 :: (run es (e.happen s).2).1, (run es (e.happen s).2).2)

/-- The service after a history. -/
def after (es : List Event) (s : Service) : Service := (run es s).2

@[simp] theorem run_nil (s : Service) : run [] s = ([], s) := rfl

theorem run_append (first second : List Event) (s : Service) :
    run (first ++ second) s =
      ((run first s).1 ++ (run second (after first s)).1, after second (after first s)) := by
  induction first generalizing s with
  | nil => rfl
  | cons e es ih => simp [run, after, ih]

@[simp] theorem length_run (es : List Event) (s : Service) : (run es s).1.length = es.length := by
  induction es generalizing s with
  | nil => rfl
  | cons e es ih => simp [run, ih]

end History

end BukuKas
