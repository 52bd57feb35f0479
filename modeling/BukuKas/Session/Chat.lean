/-!
# Chats

What the service remembers of a sender who is logged in: the user, whether to warn about the budget,
the last recording, and monthly reminders.
-/

namespace BukuKas

/-- Something to be reminded of on a day of each month. -/
structure Reminder where
  name : String
  day : Int
  deriving DecidableEq, Repr

/-- What is remembered of a sender. -/
structure Chat where
  /-- The number of the user. -/
  user : Int
  /-- The address under which the user is known. -/
  email : String
  /-- The name by which the user is greeted. -/
  name : String
  /-- Whether to warn about the budget. -/
  alert : Bool := true
  /-- The number of the last recording that can be taken back. -/
  last : Option Int := none
  /-- The reminders in order. -/
  reminders : List Reminder := []
  deriving DecidableEq, Repr

namespace Chat

/-- The chat with the alert, the last recording and the reminders of another one.  User, address
and name stay. -/
def restore (c saved : Chat) : Chat :=
  { c with alert := saved.alert, last := saved.last, reminders := saved.reminders }

@[simp] theorem restore_self (c : Chat) : c.restore c = c := rfl

theorem restore_restore (c first second : Chat) :
    (c.restore first).restore second = c.restore second := rfl

end Chat

end BukuKas
