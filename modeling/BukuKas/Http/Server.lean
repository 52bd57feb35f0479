import BukuKas.About
import BukuKas.Http.Path
import BukuKas.Job
import BukuKas.Message.Handling
import BukuKas.Message.Payload
import BukuKas.Text.Width

/-!
# The service over HTTP

A request asks for the front page or the health of the service, brings a message, or starts a job
for the local date of the clock on the wall.  An answer has a status code and a page.  A fault that
no part of the service takes care of leaves no answer; nor does a complaint that would have to show
a number which is not finite.

## Main results

* `receive_of_message` : a well-formed message is handled like any other.
* `Answer.shownTo_code` : the code of an answer does not depend on how much of it is shown.
-/

namespace BukuKas.Http

open Calendar (Date)

/-- The body of a request. -/
inductive Body where
  /-- There is none. -/
  | empty
  /-- A text that should be JSON. -/
  | text (s : String)
  /-- A value. -/
  | value (v : Json)

/-- A request. -/
structure Request where
  method : String
  path : String
  body : Body := .empty

/-- What is wrong with a body that can be read. -/
inductive BodyComplaint where
  /-- There is no body. -/
  | missing
  /-- The body stops being JSON behind so many characters. -/
  | notJson (place : Nat)
  /-- The body is no object. -/
  | notObject
  /-- A field of the body is wrong. -/
  | field (complaint : Complaint)
  deriving DecidableEq, Repr

/-- What an answer shows. -/
inductive Page where
  | front
  | health (sessions : Nat)
  | response (r : Response)
  | summary (s : Job.Summary)
  | complaints (cs : List BodyComplaint)
  | detail (text : String)
  | nothing
  deriving DecidableEq

namespace Page

/-- The status code of an answer with a page that names no status itself. -/
def code : Page → Nat
  | complaints _ => 422
  | _ => 200

end Page

/-- An answer. -/
structure Answer where
  code : Nat
  page : Page
  deriving DecidableEq

namespace Answer

/-- The answer with a page under the code that belongs to it. -/
def ofPage (page : Page) : Answer := ⟨page.code, page⟩

/-- The answer to a body that cannot be read. -/
def unreadable : Answer := ⟨400, .detail "There was an error parsing the body"⟩

/-- The answer to a path that leads nowhere. -/
def notFound : Answer := ⟨404, .detail "Not Found"⟩

/-- The answer to a path that is known without the slashes at its end. -/
def moved : Answer := ⟨307, .nothing⟩

/-- The answer to a method that a route does not know. -/
def wrongMethod : Answer := ⟨405, .detail "Method Not Allowed"⟩

/-- The answer to a job that nobody knows. -/
def unknownJob (name : String) : Answer := ⟨404, .detail ("Unknown job '" ++ name ++ "'")⟩

end Answer

/-- What a request led to. -/
structure Exchange where
  /-- The answer, unless a fault left none. -/
  answer : Except Fault Answer
  /-- The texts that were sent through the gateway, with their phones. -/
  deliveries : List (String × String) := []
  service : Service

/-- Why a body is no message. -/
inductive Refusal where
  /-- The body cannot be read. -/
  | unreadable
  /-- A complaint would have to show a number that is not finite. -/
  | unshowable
  /-- Something is wrong with the body. -/
  | complaints (cs : List BodyComplaint)
  deriving DecidableEq, Repr

/-- What follows from a refusal. -/
def Refusal.answer : Refusal → Except Fault Answer
  | unreadable => .ok .unreadable
  | unshowable => .error .nonFiniteAnswer
  | complaints cs => .ok (.ofPage (.complaints cs))

/-- The characters of a body, in units of the width that its bytes show.  A byte order mark at the
head of single bytes does not count. -/
def textOf? (s : String) : Option (List Char) :=
  let bytes := s.toUTF8.toList.map UInt8.toNat
  match Text.Width.ofHead bytes with
  | .one =>
    match s.toList with
    | '\uFEFF' :: cs => some cs
    | cs => some cs
  | width => width.decode? bytes

/-- The value of a body. -/
def Body.read : Body → Except Refusal Json
  | empty => .error (.complaints [.missing])
  | text s =>
    if s.isEmpty then .error (.complaints [.missing])
    else
      match (textOf? s).map Json.read with
      | none => .error .unreadable
      | some (.error .excess) => .error .unreadable
      | some (.error (.notJson place)) => .error (.complaints [.notJson place])
      | some (.ok v) => .ok v
  | value v => .ok v

/-- What a complaint about a field shows: the whole object when the field is missing, and else its
value. -/
def shownBy (members : List (String × Json)) : Complaint → Json
  | .missing _ => .obj members
  | complaint => (Json.field? members complaint.field).getD .null

/-- The refusal of the members of an object with these complaints. -/
def refusalOf (members : List (String × Json)) (complaints : List Complaint) : Refusal :=
  if complaints.all fun c => (shownBy members c).isFinite then
    .complaints (complaints.map .field)
  else .unshowable

/-- The message in a body. -/
def Body.message (b : Body) : Except Refusal Message :=
  match b.read with
  | .error refusal => .error refusal
  | .ok (.obj members) =>
    match Payload.read members with
    | .ok m => .ok m
    | .error complaints => .error (refusalOf members complaints)
  | .ok v => .error (if v.isFinite then .complaints [.notObject] else .unshowable)

/-- Handles the message in a body. -/
def receive (c : Circumstances) (plan : FaultPlan) (body : Body) (s : Service) : Exchange :=
  match body.message with
  | .error refusal => { answer := refusal.answer, service := s }
  | .ok m =>
    let (result, desk) := m.handle c plan s
    { answer := result.map fun r => .ofPage (.response r), service := desk.service }

/-- Runs a job for the local date. -/
def runJob (c : Circumstances) (plan : FaultPlan) (gateway : String → Gateway.Answer)
    (name : String) (s : Service) : Exchange :=
  match Job.ofName? name with
  | none => { answer := .ok (.unknownJob name), service := s }
  | some job =>
    match c.localDate none with
    | .error fault => { answer := .error fault, service := s }
    | .ok today =>
      match job.run c.settings.alertThreshold plan today gateway s with
      | (.error fault, desk) => { answer := .error fault, service := desk.service }
      | (.ok run, desk) =>
        { answer := .ok (.ofPage (.summary run.summary))
          deliveries := run.deliveries
          service := desk.service }

/-- Serves a request for a route. -/
def serveRoute (c : Circumstances) (plan : FaultPlan) (gateway : String → Gateway.Answer)
    (body : Body) (s : Service) : Route → Exchange
  | .front => { answer := .ok (.ofPage .front), service := s }
  | .health => { answer := .ok (.ofPage (.health s.chats.size)), service := s }
  | .incoming => receive c plan body s
  | .job name => runJob c plan gateway name s

/-- Serves a request with a method in capitals for a path. -/
def servePath (c : Circumstances) (plan : FaultPlan) (gateway : String → Gateway.Answer)
    (method : List Char) (path : List Char) (body : Body) (s : Service) : Exchange :=
  match Destination.ofPath path with
  | .nowhere => { answer := .ok .notFound, service := s }
  | .moved => { answer := .ok .moved, service := s }
  | .route r =>
    if method == r.method.toList then serveRoute c plan gateway body s r
    else { answer := .ok .wrongMethod, service := s }

/-- An answer as it is shown to a method: whoever asks for the head alone is shown no page. -/
def Answer.shownTo (method : List Char) (a : Answer) : Answer :=
  if method == "HEAD".toList then { a with page := .nothing } else a

/-- Serves a request.  Methods are written in capitals, however they are given. -/
def serve (c : Circumstances) (plan : FaultPlan) (gateway : String → Gateway.Answer) (r : Request)
    (s : Service) : Exchange :=
  match pathOf r.path with
  | .error flaw => { answer := .error (.badAddress flaw), service := s }
  | .ok path =>
    let method := Text.upper r.method.toList
    let e := servePath c plan gateway method path r.body s
    { e with answer := e.answer.map (Answer.shownTo method) }

theorem Answer.shownTo_code (method : List Char) (a : Answer) :
    (a.shownTo method).code = a.code := by
  unfold shownTo
  split <;> rfl

theorem receive_of_message {c : Circumstances} {plan : FaultPlan} {body : Body} {s : Service}
    {m : Message} {r : Response} (hm : body.message = .ok m) (hr : (m.handle c plan s).1 = .ok r) :
    (receive c plan body s).answer = .ok (.ofPage (.response r)) := by
  simp [receive, hm, hr, Except.map]

end BukuKas.Http
