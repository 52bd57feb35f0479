import BukuKas.Roster

/-!
# Laws of rosters

Entering a name twice is entering it once, and entering what is found under a name changes nothing.
A roster whose values are all changed in the same way keeps its names and their order, so the change
can be made before or after anything else that is done with it.

## Main results

* `set_set`, `set_of_get?` : entering again, and entering what is there.
* `get?_mapValues`, `set_mapValues`, `erase_mapValues` : a change of all values commutes with
  finding, entering and striking out.
* `mem_names_iff` : something is found under exactly the names that are entered.
* `find?_filterMap` : what is found after some values were left out.
-/

namespace BukuKas.Roster

variable {α β : Type}

/-! ## Entering again -/

theorem insert_insert (name : String) (v w : α) (items : List (String × α)) :
    insert name w (insert name v items) = insert name w items := by
  induction items with
  | nil => simp [insert]
  | cons item rest ih =>
      obtain ⟨other, old⟩ := item
      by_cases h : other = name
      · simp [insert, h]
      · simp [insert, h, ih]

theorem insert_of_find? {name : String} {v : α} {items : List (String × α)}
    (h : find? name items = some v) : insert name v items = items := by
  induction items with
  | nil => exact nomatch h
  | cons item rest ih =>
      obtain ⟨other, old⟩ := item
      by_cases ho : other = name
      · have hv : old = v := by simpa [find?, ho] using h
        simp [insert, ho, hv]
      · have hrest : find? name rest = some v := by simpa [find?, ho] using h
        simp [insert, ho, ih hrest]

/-- Of two values entered under one name the second one counts. -/
theorem set_set (r : Roster α) (name : String) (v w : α) :
    (r.set name v).set name w = r.set name w :=
  ext_items (insert_insert name v w r.items)

/-- Entering what is found under a name changes nothing. -/
theorem set_of_get? {r : Roster α} {name : String} {v : α} (h : r.get? name = some v) :
    r.set name v = r :=
  ext_items (insert_of_find? h)

theorem contains_of_get? {r : Roster α} {name : String} {v : α} (h : r.get? name = some v) :
    r.contains name = true := by
  simp [contains, h]

@[simp] theorem contains_set_self (r : Roster α) (name : String) (v : α) :
    (r.set name v).contains name = true :=
  contains_of_get? (get?_set_self r name v)

/-- What is found after a value was entered is this value, or was found before. -/
theorem get?_of_set {r : Roster α} {name other : String} {v w : α}
    (h : (r.set name v).get? other = some w) : w = v ∨ r.get? other = some w := by
  by_cases hname : other = name
  · rw [hname, get?_set_self] at h
    exact .inl (Option.some.inj h).symm
  · exact .inr (by rwa [get?_set_of_ne r hname] at h)

/-- What is found after a name was struck out was found before. -/
theorem get?_of_erase {r : Roster α} {name other : String} {v : α}
    (h : (r.erase name).get? other = some v) : r.get? other = some v := by
  by_cases hname : other = name
  · rw [hname, get?_erase_self] at h
    exact nomatch h
  · rwa [get?_erase_of_ne r hname] at h

/-! ## A change of all values -/

/-- The roster with every value changed. -/
def mapValues (f : α → β) (r : Roster α) : Roster β where
  items := r.items.map fun item => (item.1, f item.2)
  nodup := by
    rw [List.map_map]
    exact r.nodup

theorem find?_map (f : α → β) (name : String) (items : List (String × α)) :
    find? name (items.map fun item => (item.1, f item.2)) = (find? name items).map f := by
  induction items with
  | nil => rfl
  | cons item rest ih =>
      by_cases h : item.1 = name
      · simp [find?, h]
      · simp [find?, h, ih]

theorem insert_map (f : α → β) (name : String) (v : α) (items : List (String × α)) :
    insert name (f v) (items.map fun item => (item.1, f item.2)) =
      (insert name v items).map fun item => (item.1, f item.2) := by
  induction items with
  | nil => rfl
  | cons item rest ih =>
      by_cases h : item.1 = name
      · simp [insert, h]
      · simp [insert, h, ih]

@[simp] theorem get?_mapValues (f : α → β) (r : Roster α) (name : String) :
    (r.mapValues f).get? name = (r.get? name).map f :=
  find?_map f name r.items

@[simp] theorem contains_mapValues (f : α → β) (r : Roster α) (name : String) :
    (r.mapValues f).contains name = r.contains name := by
  simp [contains]

theorem set_mapValues (f : α → β) (r : Roster α) (name : String) (v : α) :
    (r.set name v).mapValues f = (r.mapValues f).set name (f v) :=
  ext_items (insert_map f name v r.items).symm

theorem erase_mapValues (f : α → β) (r : Roster α) (name : String) :
    (r.erase name).mapValues f = (r.mapValues f).erase name := by
  apply ext_items
  show (r.items.filter _).map _ = (r.items.map _).filter _
  rw [List.filter_map]
  rfl

/-- Changes that agree on what is entered give the same roster. -/
theorem mapValues_congr {f g : α → β} {r : Roster α} (h : ∀ item ∈ r.items, f item.2 = g item.2) :
    r.mapValues f = r.mapValues g := by
  apply ext_items
  apply List.map_congr_left
  intro item hitem
  rw [h item hitem]

theorem mapValues_id (r : Roster α) : r.mapValues id = r :=
  ext_items (List.map_id r.items)

/-- What is found under a name is entered. -/
theorem mem_items_of_find? {name : String} {v : α} {items : List (String × α)}
    (h : find? name items = some v) : (name, v) ∈ items := by
  induction items with
  | nil => exact nomatch h
  | cons item rest ih =>
      obtain ⟨other, old⟩ := item
      by_cases ho : other = name
      · have hv : old = v := by simpa [find?, ho] using h
        simp [ho, hv]
      · have hrest : find? name rest = some v := by simpa [find?, ho] using h
        exact List.mem_cons_of_mem _ (ih hrest)

/-- What is entered after a change was entered by it, or stood before. -/
theorem mem_items_set {r : Roster α} {name : String} {v : α} {item : String × α}
    (h : item ∈ (r.set name v).items) : item.2 = v ∨ item ∈ r.items := by
  have hitems : ∀ items : List (String × α),
      item ∈ insert name v items → item.2 = v ∨ item ∈ items := by
    intro items
    induction items with
    | nil =>
        intro hmem
        exact .inl (by simp_all [insert])
    | cons first rest ih =>
        intro hmem
        obtain ⟨other, old⟩ := first
        by_cases ho : other = name
        · simp only [insert, ho, if_true, List.mem_cons] at hmem
          rcases hmem with hmem | hmem
          · exact .inl (by rw [hmem])
          · exact .inr (List.mem_cons_of_mem _ hmem)
        · simp only [insert, ho, if_false, List.mem_cons] at hmem
          rcases hmem with hmem | hmem
          · exact .inr (by simp [hmem])
          · rcases ih hmem with hv | hrest
            · exact .inl hv
            · exact .inr (List.mem_cons_of_mem _ hrest)
  exact hitems r.items h

theorem exists_find?_of_mem {name : String} {items : List (String × α)}
    (h : name ∈ items.map Prod.fst) :
    ∃ v, find? name items = some v := by
  induction items with
  | nil => exact nomatch h
  | cons item rest ih =>
      obtain ⟨other, v⟩ := item
      by_cases ho : other = name
      · exact ⟨v, if_pos ho⟩
      · obtain ⟨w, hw⟩ := ih ((List.mem_cons.mp h).resolve_left (Ne.symm ho))
        exact ⟨w, (if_neg ho).trans hw⟩

/-- A name is entered when something is found under it. -/
theorem mem_names_iff {r : Roster α} {name : String} :
    name ∈ r.names ↔ ∃ v, r.get? name = some v := by
  refine ⟨exists_find?_of_mem, fun ⟨v, hv⟩ => ?_⟩
  exact List.mem_map_of_mem (mem_items_of_find? hv)

/-! ## Values that are left out -/

theorem find?_of_not_mem {name : String} {items : List (String × α)}
    (h : name ∉ items.map Prod.fst) :
    find? name items = none := by
  induction items with
  | nil => rfl
  | cons item rest ih =>
      obtain ⟨other, v⟩ := item
      rw [List.map_cons, List.mem_cons, not_or] at h
      rw [find?, if_neg (Ne.symm h.1), ih h.2]

/-- What is found among values of which some are left out. -/
theorem find?_filterMap (f : String → α → Option β) (name : String) {items : List (String × α)}
    (h : (items.map Prod.fst).Nodup) :
    find? name (items.filterMap fun item => (f item.1 item.2).map (item.1, ·)) =
      (find? name items).bind (f name) := by
  induction items with
  | nil => rfl
  | cons item rest ih =>
      obtain ⟨other, v⟩ := item
      rw [List.map_cons, List.nodup_cons] at h
      have hrest := ih h.2
      by_cases hname : other = name
      · subst hname
        rw [find?_of_not_mem h.1, Option.bind_none] at hrest
        cases hv : f other v with
        | none => simp [find?, hv, hrest]
        | some w => simp [find?, hv]
      · cases hv : f other v with
        | none => simp [find?, hv, hname, hrest]
        | some w => simp [find?, hv, hname, hrest]

end BukuKas.Roster
