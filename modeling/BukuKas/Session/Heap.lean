import BukuKas.Session.Chat

/-!
# Chat objects

A chat is an object: whoever holds it sees every change of it.  Its reminders stand in a list that
is an object as well, which the chat only refers to; two chats that referred to one list would see
each other's reminders.  So a new object is always made with a new list, also when it is a copy of
another one.

Objects and lists have the numbers in which they were made, and stay for good.

## Main results

* `chat?_add_self` : a new object is the chat that it was made of.
-/

namespace BukuKas

/-- A chat as an object, which refers to its reminders. -/
structure ChatObject where
  user : Int
  email : String
  name : String
  alert : Bool
  last : Option Int
  /-- The number of the list in which its reminders stand. -/
  list : Nat
  deriving DecidableEq, Repr

/-- The chat that an object is when these are its reminders. -/
def ChatObject.chat (o : ChatObject) (reminders : List Reminder) : Chat where
  user := o.user
  email := o.email
  name := o.name
  alert := o.alert
  last := o.last
  reminders := reminders

/-- The object of a chat whose reminders stand in a list. -/
def ChatObject.ofChat (c : Chat) (list : Nat) : ChatObject where
  user := c.user
  email := c.email
  name := c.name
  alert := c.alert
  last := c.last
  list := list

/-- Chat objects and lists of reminders, by their numbers. -/
structure Heap where
  objects : List ChatObject := []
  lists : List (List Reminder) := []

namespace Heap

/-- The number of objects, which is the number of the next one. -/
def size (h : Heap) : Nat := h.objects.length

/-- The reminders of an object. -/
def reminders (h : Heap) (o : ChatObject) : List Reminder := (h.lists[o.list]?).getD []

/-- The chat that an object is. -/
def chat? (h : Heap) (n : Nat) : Option Chat :=
  (h.objects[n]?).map fun o => o.chat (h.reminders o)

/-! ## New objects -/

/-- Makes an object like the given one, with a new list of these reminders. -/
def add (h : Heap) (o : ChatObject) (reminders : List Reminder) : Heap where
  objects := h.objects ++ [{ o with list := h.lists.length }]
  lists := h.lists ++ [reminders]

/-- Makes an object of a chat. -/
def create (h : Heap) (c : Chat) : Heap :=
  h.add (.ofChat c h.lists.length) c.reminders

/-- Makes a copy of an object, and of the list of its reminders. -/
def copy (h : Heap) (n : Nat) : Heap :=
  match h.objects[n]? with
  | none => h
  | some o => h.add o (h.reminders o)

/-! ## Changes -/

/-- Changes an object, as far as it does not concern its reminders. -/
def modify (h : Heap) (n : Nat) (f : ChatObject → ChatObject) : Heap :=
  { h with objects := h.objects.modify n f }

/-- Turns the alert of an object on or off. -/
def setAlert (h : Heap) (n : Nat) (value : Bool) : Heap :=
  h.modify n fun o => { o with alert := value }

/-- Sets the last recording of an object. -/
def setLast (h : Heap) (n : Nat) (value : Option Int) : Heap :=
  h.modify n fun o => { o with last := value }

/-- Changes the reminders of an object within their list. -/
def modifyReminders (h : Heap) (n : Nat) (f : List Reminder → List Reminder) : Heap :=
  match h.objects[n]? with
  | none => h
  | some o => { h with lists := h.lists.modify o.list f }

/-- Gives an object the alert, the last recording and the reminders of another one.  The reminders
are put into its own list. -/
def restore (h : Heap) (n saved : Nat) : Heap :=
  match h.objects[saved]? with
  | none => h
  | some s =>
    ((h.setAlert n s.alert).setLast n s.last).modifyReminders n fun _ => h.reminders s

/-- A new object is the chat that it was made of. -/
theorem chat?_add_self (h : Heap) (o : ChatObject) (reminders : List Reminder) :
    (h.add o reminders).chat? h.size = some (o.chat reminders) := by
  simp [chat?, add, size, Heap.reminders, ChatObject.chat]

end Heap

end BukuKas
