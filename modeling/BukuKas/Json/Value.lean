import BukuKas.Number.Binary64

/-!
# JSON values

What the body of a request says, before it is known whether it is a message.  Whole numbers and
numbers with a fraction or an exponent are kept apart, since only the former are exact.  The members
of an object keep their order, and of two members with one name the later counts.

## Main results

* `field?_append_self` : a member that is added last hides the others of its name.
* `isFinite_arr` : a list is finite when all its items are.
-/

namespace BukuKas

/-- A JSON value. -/
inductive Json where
  | null
  | bool (b : Bool)
  | int (n : Int)
  | real (x : Number.Binary64)
  | str (s : String)
  | arr (items : List Json)
  | obj (members : List (String × Json))
  deriving Inhabited

namespace Json

/-- The value of the last member with this name. -/
def field? (members : List (String × Json)) (name : String) : Option Json :=
  (members.reverse.find? fun m => m.1 == name).map Prod.snd

@[simp] theorem field?_nil (name : String) : field? [] name = none := rfl

/-- A member that is added last hides the others of its name. -/
@[simp] theorem field?_append_self (members : List (String × Json)) (name : String) (v : Json) :
    field? (members ++ [(name, v)]) name = some v := by
  simp [field?]

/-! ## Numbers that are not finite

The standard has no numerals for them, so that a value which holds one cannot be written. -/

mutual

/-- Whether all numbers in a value that count are finite. -/
def isFinite : Json → Bool
  | real x => x.isFinite
  | arr items => areFinite items
  | obj members => membersFinite members
  | _ => true

/-- Whether all items are finite. -/
def areFinite : List Json → Bool
  | [] => true
  | v :: rest => v.isFinite && areFinite rest

/-- Whether all members are finite; one that a later one hides does not count. -/
def membersFinite : List (String × Json) → Bool
  | [] => true
  | (name, v) :: rest => (v.isFinite || rest.any fun m => m.1 == name) && membersFinite rest

end

@[simp] theorem areFinite_eq_all (items : List Json) : areFinite items = items.all isFinite := by
  induction items with
  | nil => rfl
  | cons v rest ih => rw [areFinite, ih, List.all_cons]

theorem isFinite_arr (items : List Json) : (arr items).isFinite = items.all isFinite := by
  rw [isFinite, areFinite_eq_all]

end Json

end BukuKas
