import BukuKas.Roster

/-!
# Locks of phones

Work that changes a chat takes the lock of its phone.  A lock is a number that no other lock has
had.  The table hands out the same lock of a phone as long as somebody keeps a reference to it, and
forgets a lock with its last reference; it can also be told to forget all locks at once, which
leaves the references where they are.

## Main results

* `take_eq_of_live` : a lock that is alive is handed out again.
* `count_forget` : nothing is alive when all locks are forgotten.
-/

namespace BukuKas

/-- The locks of phones. -/
structure LockTable where
  /-- The locks that are alive, under their phones. -/
  live : Roster Nat := Roster.empty
  /-- The references that somebody keeps: phones with locks. -/
  kept : List (String × Nat) := []
  /-- The number of the next new lock. -/
  next : Nat := 0

namespace LockTable

/-- Takes a reference to the lock of a phone, and says which lock it is. -/
def take (t : LockTable) (phone : String) : Nat × LockTable :=
  match t.live.get? phone with
  | some lock => (lock, { t with kept := t.kept ++ [(phone, lock)] })
  | none =>
    (t.next, {
      live := t.live.set phone t.next
      kept := t.kept ++ [(phone, t.next)]
      next := t.next + 1 })

/-- Lets a reference go.  The lock goes with its last reference. -/
def release (t : LockTable) (phone : String) (lock : Nat) : LockTable :=
  let kept := t.kept.erase (phone, lock)
  if t.live.get? phone = some lock && !kept.contains (phone, lock) then
    { t with kept := kept, live := t.live.erase phone }
  else { t with kept := kept }

/-- Forgets all locks. -/
def forget (t : LockTable) : LockTable := { t with live := Roster.empty }

/-- The number of locks that are alive. -/
def count (t : LockTable) : Nat := t.live.size

/-- The lock that somebody keeps for a phone, the earliest of several. -/
def keptFor? (t : LockTable) (phone : String) : Option Nat :=
  (t.kept.find? fun reference => reference.1 == phone).map Prod.snd

theorem take_eq_of_live {t : LockTable} {phone : String} {lock : Nat}
    (h : t.live.get? phone = some lock) : (t.take phone).1 = lock := by
  simp [take, h]

theorem live_take (t : LockTable) (phone : String) :
    (t.take phone).2.live.get? phone = some (t.take phone).1 := by
  unfold take
  split
  · assumption
  · simp

@[simp] theorem count_forget (t : LockTable) : t.forget.count = 0 := rfl

@[simp] theorem kept_forget (t : LockTable) : t.forget.kept = t.kept := rfl

end LockTable

end BukuKas
