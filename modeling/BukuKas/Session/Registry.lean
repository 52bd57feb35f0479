import BukuKas.Session.Heap
import BukuKas.Session.Lock

/-!
# The registry of chats

Phones are bound to chat objects, in the order in which they were first bound; several phones may
share one object, and a change of it is seen under all of them.  A chat that is set anew is another
object.  One that a phone was unbound from is still there for whoever holds it, and can be put under
a phone again.

Checkpoints are objects under names of their own, each a copy of a chat at the time when it was
taken.

## Main results

* `after_append` : steps are done part by part.
-/

namespace BukuKas

/-- Chats, the phones that are bound to them, their checkpoints, and the locks of phones. -/
structure Registry where
  /-- All objects that ever were: chats and checkpoints. -/
  heap : Heap := {}
  /-- The phones with the numbers of their chats. -/
  bound : Roster Nat := Roster.empty
  /-- The names with the numbers of their checkpoints. -/
  saved : Roster Nat := Roster.empty
  locks : LockTable := {}

namespace Registry

/-- Why something cannot be done. -/
inductive Refusal where
  /-- The phone has no chat. -/
  | noChat
  /-- There is no checkpoint of that name. -/
  | noCheckpoint
  /-- No lock of the phone is kept. -/
  | notHeld
  /-- There is no reminder at that place. -/
  | badIndex
  /-- There is no chat of that number. -/
  | noObject
  deriving DecidableEq, Repr

/-- The chat of a phone. -/
def chat? (r : Registry) (phone : String) : Option Chat := (r.bound.get? phone).bind r.heap.chat?

/-- The checkpoint of that name. -/
def saved? (r : Registry) (name : String) : Option Chat := (r.saved.get? name).bind r.heap.chat?

/-- The phones with their chats, in order. -/
def items (r : Registry) : List (String × Chat) :=
  r.bound.items.filterMap fun (phone, n) => (r.heap.chat? n).map fun chat => (phone, chat)

/-- The number of phones that are bound. -/
def size (r : Registry) : Nat := r.bound.size

/-- Binds a phone to a new chat. -/
def set (r : Registry) (phone : String) (chat : Chat) : Registry :=
  { r with heap := r.heap.create chat, bound := r.bound.set phone r.heap.size }

/-- Unbinds a phone, and gives the chat that it had. -/
def delete (r : Registry) (phone : String) : Option Chat × Registry :=
  (r.chat? phone, { r with bound := r.bound.erase phone })

/-- Unbinds all phones and forgets all locks. -/
def clear (r : Registry) : Registry :=
  { r with bound := Roster.empty, locks := r.locks.forget }

/-- Copies the chat of a phone under a name. -/
def checkpoint (r : Registry) (phone name : String) : Except Refusal Registry :=
  match r.bound.get? phone with
  | none => .error .noChat
  | some n => .ok { r with heap := r.heap.copy n, saved := r.saved.set name r.heap.size }

/-- Gives the chat of a phone the alert, the last recording and the reminders of a checkpoint. -/
def restore (r : Registry) (phone name : String) : Except Refusal Registry :=
  match r.bound.get? phone with
  | none => .error .noChat
  | some n =>
    match r.saved.get? name with
    | none => .error .noCheckpoint
    | some saved => .ok { r with heap := r.heap.restore n saved }

/-- Changes the chat of a phone that has one. -/
def change (r : Registry) (phone : String) (f : Heap → Nat → Heap) : Except Refusal Registry :=
  match r.bound.get? phone with
  | none => .error .noChat
  | some n => .ok { r with heap := f r.heap n }

/-- Removes the reminder at a place, counted from zero, of the chat of a phone. -/
def unremind (r : Registry) (phone : String) (index : Int) : Except Refusal Registry :=
  match r.chat? phone with
  | none => .error .noChat
  | some chat =>
    if 0 ≤ index ∧ index < chat.reminders.length then
      r.change phone fun heap n => heap.modifyReminders n fun reminders =>
        reminders.eraseIdx index.toNat
    else .error .badIndex

/-- Binds another phone to the chat of a phone. -/
def share (r : Registry) (phone other : String) : Except Refusal Registry :=
  match r.bound.get? phone with
  | none => .error .noChat
  | some n => .ok { r with bound := r.bound.set other n }

/-- Whether an object is a chat, and not a checkpoint. -/
def holdsChat (r : Registry) (n : Nat) : Bool :=
  n < r.heap.size && !(r.saved.items.map Prod.snd).contains n

/-- Binds a phone to a chat that somebody holds, be it bound to a phone or not. -/
def put (r : Registry) (phone : String) (n : Nat) : Except Refusal Registry :=
  if r.holdsChat n then .ok { r with bound := r.bound.set phone n } else .error .noObject

/-- Takes the lock of a phone and keeps it in place of the one that was kept for the phone, and says
whether that one is the same. -/
def hold (r : Registry) (phone : String) : Bool × Registry :=
  let before := r.locks.keptFor? phone
  let (lock, locks) := r.locks.take phone
  match before with
  | none => (false, { r with locks := locks })
  | some old => (old == lock, { r with locks := locks.release phone old })

/-- Lets the lock go that is kept for a phone. -/
def drop (r : Registry) (phone : String) : Except Refusal Registry :=
  match r.locks.keptFor? phone with
  | none => .error .notHeld
  | some lock => .ok { r with locks := r.locks.release phone lock }

/-! ## Steps -/

/-- What can be done with a registry. -/
inductive Step where
  | set (phone : String) (chat : Chat)
  | get (phone : String)
  | delete (phone : String)
  | items
  | contains (phone : String)
  | clear
  | checkpoint (phone name : String)
  | restore (phone name : String)
  | showSaved (name : String)
  | alert (phone : String) (value : Bool)
  | last (phone : String) (value : Option Int)
  | remind (phone : String) (reminder : Reminder)
  | unremind (phone : String) (index : Int)
  | share (phone other : String)
  | put (phone : String) (object : Nat)
  | hold (phone : String)
  | drop (phone : String)
  deriving DecidableEq

/-- What a step gives. -/
inductive Result where
  | nothing
  | flag (b : Bool)
  | chat (chat : Option Chat)
  | chats (items : List (String × Chat))
  | refused (why : Refusal)
  deriving DecidableEq

/-- A registry that was changed without a result, or the registry as it was and the refusal. -/
def orRefused (r : Registry) : Except Refusal Registry → Result × Registry
  | .ok after => (.nothing, after)
  | .error why => (.refused why, r)

/-- Does a step. -/
def perform (r : Registry) : Step → Result × Registry
  | .set phone chat => (.nothing, r.set phone chat)
  | .get phone => (.chat (r.chat? phone), r)
  | .delete phone => (.chat (r.delete phone).1, (r.delete phone).2)
  | .items => (.chats r.items, r)
  | .contains phone => (.flag (r.bound.contains phone), r)
  | .clear => (.nothing, r.clear)
  | .checkpoint phone name => r.orRefused (r.checkpoint phone name)
  | .restore phone name => r.orRefused (r.restore phone name)
  | .showSaved name =>
    match r.saved? name with
    | some chat => (.chat (some chat), r)
    | none => (.refused .noCheckpoint, r)
  | .alert phone value => r.orRefused (r.change phone fun heap n => heap.setAlert n value)
  | .last phone value => r.orRefused (r.change phone fun heap n => heap.setLast n value)
  | .remind phone reminder =>
    r.orRefused (r.change phone fun heap n => heap.modifyReminders n fun reminders =>
      reminders ++ [reminder])
  | .unremind phone index => r.orRefused (r.unremind phone index)
  | .share phone other => r.orRefused (r.share phone other)
  | .put phone n => r.orRefused (r.put phone n)
  | .hold phone => (.flag (r.hold phone).1, (r.hold phone).2)
  | .drop phone => r.orRefused (r.drop phone)

/-- The registry after several steps. -/
def after (steps : List Step) (r : Registry) : Registry :=
  steps.foldl (fun r step => (r.perform step).2) r

theorem after_append (first second : List Step) (r : Registry) :
    after (first ++ second) r = after second (after first r) :=
  List.foldl_append

end Registry

end BukuKas
