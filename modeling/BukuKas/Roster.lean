/-!
# Rosters

Values under names, in the order in which the names were first entered.  Entering a name again
keeps its place; a name that was struck out and is entered again comes last.  No name stands twice.

## Main results

* `get?_set_self`, `get?_set_of_ne`, `get?_erase_self`, `get?_erase_of_ne` : what each change does
  to what is found.
* `names_set`, `names_erase` : what each change does to the order.
* `ext_items` : a roster is its items.
-/

namespace BukuKas

namespace Roster

variable {α : Type}

/-! ## Lists of names with values -/

/-- The value in a list under a name. -/
def find? (name : String) : List (String × α) → Option α
  | [] => none
  | (other, v) :: rest => if other = name then some v else find? name rest

/-- Enters a value in a list. -/
def insert (name : String) (v : α) : List (String × α) → List (String × α)
  | [] => [(name, v)]
  | (other, old) :: rest =>
    if other = name then (other, v) :: rest else (other, old) :: insert name v rest

/-- Strikes a name out of a list. -/
def remove (name : String) (items : List (String × α)) : List (String × α) :=
  items.filter fun item => item.1 != name

theorem find?_insert_self (name : String) (v : α) :
    ∀ items : List (String × α), find? name (insert name v items) = some v
  | [] => by simp [insert, find?]
  | (other, old) :: rest => by
    by_cases h : other = name
    · simp [insert, find?, h]
    · simp [insert, find?, h, find?_insert_self name v rest]

theorem find?_insert_of_ne {name other : String} (h : other ≠ name) (v : α) :
    ∀ items : List (String × α), find? other (insert name v items) = find? other items
  | [] => by simp [insert, find?, Ne.symm h]
  | (third, old) :: rest => by
    by_cases ht : third = name
    · simp [insert, find?, ht, Ne.symm h]
    · by_cases ho : third = other
      · simp [insert, find?, ho, h]
      · simp [insert, find?, ht, ho, find?_insert_of_ne h v rest]

theorem find?_remove_self (name : String) :
    ∀ items : List (String × α), find? name (remove name items) = none
  | [] => rfl
  | (other, v) :: rest => by
    have ih := find?_remove_self name rest
    by_cases h : other = name
    · simpa [remove, h] using ih
    · simpa [remove, h, find?] using ih

theorem find?_remove_of_ne {name other : String} (h : other ≠ name) :
    ∀ items : List (String × α), find? other (remove name items) = find? other items
  | [] => rfl
  | (third, v) :: rest => by
    have ih := find?_remove_of_ne h rest
    by_cases ht : third = name
    · simpa [remove, ht, find?, Ne.symm h] using ih
    · by_cases ho : third = other
      · simp [remove, find?, ho, h]
      · simpa [remove, ht, find?, ho] using ih

theorem map_fst_insert (name : String) (v : α) (items : List (String × α)) :
    (insert name v items).map Prod.fst =
      if name ∈ items.map Prod.fst then items.map Prod.fst else items.map Prod.fst ++ [name] := by
  induction items with
  | nil => simp [insert]
  | cons item rest ih =>
    obtain ⟨other, old⟩ := item
    by_cases h : other = name
    · simp [insert, h]
    · simp only [insert, h, if_false, List.map_cons, ih, List.mem_cons, Ne.symm h, false_or]
      split <;> simp

theorem map_fst_remove (name : String) (items : List (String × α)) :
    (remove name items).map Prod.fst = (items.map Prod.fst).filter fun other => other != name := by
  induction items with
  | nil => rfl
  | cons item rest ih =>
    by_cases h : item.1 = name
    · simpa [remove, h] using ih
    · simpa [remove, h] using ih

theorem nodup_insert (name : String) (v : α) {items : List (String × α)}
    (h : (items.map Prod.fst).Nodup) : ((insert name v items).map Prod.fst).Nodup := by
  rw [map_fst_insert]
  split
  · exact h
  · rename_i hn
    rw [List.nodup_append]
    refine ⟨h, by simp, ?_⟩
    intro a ha b hb hab
    rw [List.mem_singleton] at hb
    exact hn (hb ▸ hab ▸ ha)

theorem nodup_remove (name : String) {items : List (String × α)}
    (h : (items.map Prod.fst).Nodup) : ((remove name items).map Prod.fst).Nodup := by
  rw [map_fst_remove]
  exact h.sublist List.filter_sublist

end Roster

/-- Values under names, in order. -/
structure Roster (α : Type) where
  /-- The names with their values. -/
  items : List (String × α)
  /-- No name stands twice. -/
  nodup : (items.map Prod.fst).Nodup

namespace Roster

variable {α : Type}

/-- Nothing is entered. -/
def empty : Roster α := ⟨[], List.nodup_nil⟩

instance : Inhabited (Roster α) := ⟨empty⟩

/-- The names in order. -/
def names (r : Roster α) : List String := r.items.map Prod.fst

/-- The value under a name. -/
def get? (r : Roster α) (name : String) : Option α := find? name r.items

/-- Whether a name is entered. -/
def contains (r : Roster α) (name : String) : Bool := (r.get? name).isSome

/-- Enters a value under a name. -/
def set (r : Roster α) (name : String) (v : α) : Roster α :=
  ⟨insert name v r.items, nodup_insert name v r.nodup⟩

/-- Strikes out a name. -/
def erase (r : Roster α) (name : String) : Roster α :=
  ⟨remove name r.items, nodup_remove name r.nodup⟩

/-- The number of names. -/
def size (r : Roster α) : Nat := r.items.length

/-- A roster is its items. -/
theorem ext_items {r s : Roster α} (h : r.items = s.items) : r = s := by
  cases r
  cases s
  cases h
  rfl

@[simp] theorem get?_empty (name : String) : (empty : Roster α).get? name = none := rfl

@[simp] theorem get?_set_self (r : Roster α) (name : String) (v : α) :
    (r.set name v).get? name = some v :=
  find?_insert_self name v r.items

theorem get?_set_of_ne (r : Roster α) {name other : String} (h : other ≠ name) (v : α) :
    (r.set name v).get? other = r.get? other :=
  find?_insert_of_ne h v r.items

@[simp] theorem get?_erase_self (r : Roster α) (name : String) :
    (r.erase name).get? name = none :=
  find?_remove_self name r.items

theorem get?_erase_of_ne (r : Roster α) {name other : String} (h : other ≠ name) :
    (r.erase name).get? other = r.get? other :=
  find?_remove_of_ne h r.items

/-- Entering keeps the place of a known name and puts a new one at the end. -/
theorem names_set (r : Roster α) (name : String) (v : α) :
    (r.set name v).names = if name ∈ r.names then r.names else r.names ++ [name] :=
  map_fst_insert name v r.items

/-- Striking out keeps the order of the others. -/
theorem names_erase (r : Roster α) (name : String) :
    (r.erase name).names = r.names.filter fun other => other != name :=
  map_fst_remove name r.items

end Roster

end BukuKas
