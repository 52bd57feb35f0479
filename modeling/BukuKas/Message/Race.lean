import BukuKas.Message.Handling
import BukuKas.Message.Payload

/-!
# Messages that overlap

One message is stopped before its first call of a duty; others come in meanwhile; then the first one
goes on.  An errand that has to wait for its turn at the phone of the first one waits until the
first one has ended, and those that wait follow in the order in which they came.  What is no message
ends as it comes in.

## Main results

* `comeIn_refused` : what is no message ends at once and changes nothing.
-/

namespace BukuKas.Race

/-- What comes in as a message, and the calls that fail while it is handled. -/
structure Entrant where
  /-- The message, or all that is wrong with it. -/
  message : Except (List Complaint) Message
  plan : FaultPlan := FaultPlan.none

/-- How an entrant ended. -/
inductive Ending where
  /-- It was no message. -/
  | refused (complaints : List Complaint)
  /-- It was handled, with these calls, the latest first. -/
  | handled (result : Except Fault Response) (calls : List Duty)

/-- An entrant that has ended, by its number. -/
structure Finish where
  number : Nat
  ending : Ending

/-- What came of messages that overlapped. -/
structure Outcome where
  /-- Whether the first message was stopped. -/
  held : Bool
  /-- Those that ended before the first one went on. -/
  before : List Finish
  /-- Those that ended after that. -/
  after : List Finish
  /-- The service in the end. -/
  service : Service

namespace Outcome

/-- All entrants in the order in which they ended. -/
def finished (o : Outcome) : List Finish := o.before ++ o.after

end Outcome

/-- A message with its number whose work has not ended. -/
structure Pending where
  number : Nat
  phone : String
  plan : FaultPlan
  rest : Work Response

/-- Whether work is about to call a duty. -/
def calls (hold : Duty) : Work Response → Bool
  | .ask q _ => q.duty == hold
  | _ => false

/-- Runs what is left of a message to its end. -/
def finish (p : Pending) (d : Desk) : Finish × Service :=
  let (result, after) := p.rest.run p.plan p.phone d
  (⟨p.number, .handled result after.calls⟩, after.service)

/-- Runs messages one after the other to their ends. -/
def finishAll : List Pending → Service → List Finish × Service
  | [], s => ([], s)
  | p :: ps, s =>
    let (first, s) := finish p s.desk
    let (rest, s) := finishAll ps s
    (first :: rest, s)

/-- The errand of a message as it comes in. -/
def errand (c : Circumstances) (m : Message) (s : Service) : Errand :=
  m.errand c (s.chats.contains m.phone)

/-- Whether an errand has to wait while a phone may be taken. -/
def waits (taken : Option String) (phone : String) : Errand → Bool
  | .inTurn _ => taken == some phone
  | .atOnce _ => false

/-- Lets entrants come in while one phone may be taken: those that must wait for it are kept, in
order, and the others run to their ends. -/
def comeIn (c : Circumstances) (taken : Option String) (number : Nat) :
    List Entrant → Service → List Finish × List Pending × Service
  | [], s => ([], [], s)
  | e :: es, s =>
    match e.message with
    | .error complaints =>
      let (done, waiting, s) := comeIn c taken (number + 1) es s
      (⟨number, .refused complaints⟩ :: done, waiting, s)
    | .ok m =>
      let came := errand c m s
      let pending : Pending := ⟨number, m.phone, e.plan, came.work⟩
      if waits taken m.phone came then
        let (done, waiting, s) := comeIn c taken (number + 1) es s
        (done, pending :: waiting, s)
      else
        let (first, s) := finish pending s.desk
        let (done, waiting, s) := comeIn c taken (number + 1) es s
        (first :: done, waiting, s)

theorem comeIn_refused {c : Circumstances} {taken : Option String} {number : Nat} {e : Entrant}
    {complaints : List Complaint} (h : e.message = .error complaints) (s : Service) :
    comeIn c taken number [e] s = ([⟨number, .refused complaints⟩], [], s) := by
  simp [comeIn, h]

/-- What comes of entrants when nobody is stopped. -/
def unheld (c : Circumstances) (first : Finish) (others : List Entrant) (s : Service) : Outcome :=
  let (done, _, s) := comeIn c none 1 others s
  ⟨false, first :: done, [], s⟩

/-- Handles a message that is stopped before its first call of a duty, and others that come in
meanwhile. -/
def run (c : Circumstances) (hold : Duty) (first : Entrant) (others : List Entrant) (s : Service) :
    Outcome :=
  match first.message with
  | .error complaints => unheld c ⟨0, .refused complaints⟩ others s
  | .ok m =>
    let (rest, desk) := (errand c m s).work.runUntil first.plan m.phone hold s.desk
    let pending : Pending := ⟨0, m.phone, first.plan, rest⟩
    if calls hold rest then
      let (before, waiting, s) := comeIn c (some m.phone) 1 others desk.service
      let resumed : Desk := { desk with
        draft := { desk.draft with ledger := s.ledger }
        chats := s.chats }
      let (firstDone, s) := finish pending resumed
      let (after, s) := finishAll waiting s
      ⟨true, before, firstDone :: after, s⟩
    else
      let (firstDone, s) := finish pending desk
      unheld c firstDone others s

end BukuKas.Race
