import BukuKas.Fault
import BukuKas.Http.Address
import BukuKas.Settings

/-!
# The gateway

Messages leave the service through a gateway: one request to its address, with the phone and the
text.  An address that cannot be used, a gateway that cannot be reached, and an answer with a status
that is no success refuse the message.

## Main results

* `send_ok_iff` : a message leaves when its request can be made and the answer is a success.
-/

namespace BukuKas

open Number (Binary64)

/-- A way out for messages. -/
structure Gateway where
  /-- The address, without slashes at its end. -/
  baseUrl : String
  /-- How many seconds an answer may take. -/
  timeout : Binary64

namespace Gateway

/-- A request to send a text. -/
structure Request where
  /-- The address to which it goes. -/
  url : String
  /-- The phone that is to get the text. -/
  phone : String
  /-- The text. -/
  text : String
  deriving DecidableEq, Repr

/-- The gateway at an address, or at that of the settings when none is given. -/
def make (settings : Settings) (url : Option String) (timeout : Option Binary64) : Gateway :=
  let chosen := match url with
    | none => settings.gatewayUrl
    | some u => if u.isEmpty then settings.gatewayUrl else u
  { baseUrl := String.ofList (chosen.toList.reverse.dropWhile (· == '/')).reverse
    timeout := timeout.getD settings.gatewayTimeout }

/-- The request that sends a text to a phone. -/
def request (g : Gateway) (phone text : String) : Except Fault Request :=
  match Http.Address.read (g.baseUrl ++ "/send").toList with
  | .ok address => .ok ⟨String.ofList address.resolved.text, phone, text⟩
  | .error flaw => .error (.badAddress flaw)

/-- How a gateway answers: not at all, or with a status. -/
inductive Answer where
  | unreachable
  | status (code : Nat)
  deriving DecidableEq, Repr

/-- What follows from an answer. -/
def accept : Answer → Except Fault Unit
  | .unreachable => .error .gatewayUnreachable
  | .status code => if 200 ≤ code && code < 300 then .ok () else .error (.gatewayStatus code)

/-- The request of a text that the gateway takes. -/
def send (g : Gateway) (answer : Answer) (phone text : String) : Except Fault Request :=
  match g.request phone text with
  | .error fault => .error fault
  | .ok r =>
    match accept answer with
    | .ok () => .ok r
    | .error fault => .error fault

theorem send_ok_iff {g : Gateway} {answer : Answer} {phone text : String} {r : Request} :
    g.send answer phone text = .ok r ↔ g.request phone text = .ok r ∧ accept answer = .ok () := by
  unfold send
  cases g.request phone text with
  | error fault => simp
  | ok made =>
    cases accept answer with
    | error fault => simp
    | ok u => simp

end Gateway

end BukuKas
