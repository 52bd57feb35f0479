import BukuKas.Session.Heap

/-!
# Objects that do not share their reminders

Every object is made with a list of its own, so no two objects ever refer to the same list.  As long
as this is so, a change of one object, be it of the object itself or within its list, is not seen in
any other.

## Main results

* `Apart.add`, `Apart.chat?_add` : a new object shares its list with no other, and leaves the others
  as they are.
* `Changes` : what a change of one object is, and `changes_restore` for the largest of them.
-/

namespace BukuKas.Heap

variable {h : Heap} {n m : Nat} {o : ChatObject} {reminders : List Reminder}

/-- Every object refers to a list that is there, and no two objects to the same one. -/
structure Apart (h : Heap) : Prop where
  valid : ∀ o ∈ h.objects, o.list < h.lists.length
  distinct : (h.objects.map ChatObject.list).Nodup

theorem apart_empty : Apart {} := ⟨nofun, List.nodup_nil⟩

/-- What an object is can be told for the objects that are there. -/
theorem chat?_isSome_iff : (h.chat? n).isSome = true ↔ n < h.size := by
  simp [chat?, size]

theorem exists_chat (hn : n < h.size) : ∃ chat, h.chat? n = some chat :=
  Option.isSome_iff_exists.mp (chat?_isSome_iff.mpr hn)

/-- Objects with the same list are the same. -/
theorem Apart.eq_of_list (hh : h.Apart) {first second : ChatObject}
    (hfirst : h.objects[n]? = some first)
    (hsecond : h.objects[m]? = some second) (hlist : first.list = second.list) : n = m := by
  have hn : n < (h.objects.map ChatObject.list).length := by
    rw [List.length_map]
    exact (List.getElem?_eq_some_iff.mp hfirst).1
  refine (List.getElem?_inj hn hh.distinct).mp ?_
  rw [List.getElem?_map, List.getElem?_map, hfirst, hsecond, Option.map_some,
    Option.map_some, hlist]

/-! ## New objects -/

@[simp] theorem size_add (h : Heap) (o : ChatObject) (reminders : List Reminder) :
    (h.add o reminders).size = h.size + 1 := by
  simp [add, size]

theorem Apart.add (hh : h.Apart) (o : ChatObject) (reminders : List Reminder) :
    (h.add o reminders).Apart where
  valid other hother := by
    show other.list < (h.lists ++ [reminders]).length
    rw [List.length_append, List.length_singleton]
    rcases List.mem_append.mp hother with hold | hnew
    · have hlt := hh.valid other hold
      omega
    · rw [List.mem_singleton.mp hnew]
      exact Nat.lt_succ_self h.lists.length
  distinct := by
    show ((h.objects ++ [_]).map ChatObject.list).Nodup
    rw [List.map_append, List.nodup_append]
    refine ⟨hh.distinct, by simp, ?_⟩
    rintro list hlist _ hnew rfl
    obtain ⟨other, hother, rfl⟩ := List.mem_map.mp hlist
    have hlt := hh.valid other hother
    rw [List.map_singleton, List.mem_singleton] at hnew
    exact Nat.lt_irrefl _ (hnew ▸ hlt)

/-- A new object changes nothing in those that are there. -/
theorem Apart.chat?_add (hh : h.Apart) (o : ChatObject) (reminders : List Reminder)
    (hn : n < h.size) :
    (h.add o reminders).chat? n = h.chat? n := by
  have hobject : (h.add o reminders).objects[n]? = h.objects[n]? := List.getElem?_append_left hn
  unfold chat?
  rw [hobject]
  cases hfound : h.objects[n]? with
  | none => rfl
  | some other =>
      have hlist := hh.valid other (List.mem_of_getElem? hfound)
      have hsame : (h.add o reminders).reminders other = h.reminders other := by
        show ((h.lists ++ [reminders])[other.list]?).getD [] = _
        rw [List.getElem?_append_left hlist]
        rfl
      rw [Option.map_some, Option.map_some, hsame]

/-- A copy is made of an object that is there. -/
theorem exists_copy (hn : n < h.size) : ∃ o, h.copy n = h.add o (h.reminders o) ∧
    h.chat? n = some (o.chat (h.reminders o)) := by
  have hfound : h.objects[n]? = some h.objects[n] := List.getElem?_eq_getElem hn
  refine ⟨h.objects[n], ?_, ?_⟩
  · unfold copy
    rw [hfound]
  · unfold chat?
    rw [hfound]
    rfl

/-! ## Changes of one object -/

/-- From one heap to another the object with a number changes as given, and no other. -/
structure Changes (n : Nat) (f : Chat → Chat) (h after : Heap) : Prop where
  apart : after.Apart
  size : after.size = h.size
  here : after.chat? n = (h.chat? n).map f
  elsewhere : ∀ m, m ≠ n → after.chat? m = h.chat? m

namespace Changes

variable {f g : Chat → Chat} {mid after : Heap}

/-- One change after the other. -/
theorem trans (hf : Changes n f h mid) (hg : Changes n g mid after) :
    Changes n (g ∘ f) h after where
  apart := hg.apart
  size := hg.size.trans hf.size
  here := by rw [hg.here, hf.here, Option.map_map]
  elsewhere m hm := (hg.elsewhere m hm).trans (hf.elsewhere m hm)

end Changes

theorem objects_modify (h : Heap) (n m : Nat) (f : ChatObject → ChatObject) :
    (h.modify n f).objects[m]? = if m = n then (h.objects[m]?).map f else h.objects[m]? := by
  show (h.objects.modify n f)[m]? = _
  rw [List.getElem?_modify]
  by_cases hm : m = n
  · simp [hm]
  · simp [hm, Ne.symm hm]

/-- An object may be changed as long as it keeps its list. -/
theorem changes_modify (hh : h.Apart) (n : Nat) {f : ChatObject → ChatObject} {g : Chat → Chat}
    (hlist : ∀ o, (f o).list = o.list)
    (hchat : ∀ o reminders, (f o).chat reminders = g (o.chat reminders)) :
    Changes n g h (h.modify n f) := by
  have hlists : (h.modify n f).objects.map ChatObject.list = h.objects.map ChatObject.list := by
    apply List.ext_getElem?
    intro m
    rw [List.getElem?_map, List.getElem?_map, objects_modify]
    split
    · rw [Option.map_map]
      exact congrArg (fun view => Option.map view h.objects[m]?) (funext hlist)
    · rfl
  refine ⟨⟨fun o ho => ?_, hlists ▸ hh.distinct⟩, List.length_modify .., ?_, fun m hm => ?_⟩
  · have hmem : o.list ∈ h.objects.map ChatObject.list := hlists ▸ List.mem_map_of_mem ho
    obtain ⟨other, hother, hsame⟩ := List.mem_map.mp hmem
    exact hsame ▸ hh.valid other hother
  · unfold chat?
    rw [objects_modify, if_pos rfl, Option.map_map, Option.map_map]
    congr 1
    funext o
    show (f o).chat ((h.lists[(f o).list]?).getD []) = g (o.chat ((h.lists[o.list]?).getD []))
    rw [hlist, hchat]
  · unfold chat?
    rw [objects_modify, if_neg hm]
    rfl

/-- The reminders of an object may be changed within its list, since no other object refers to
it. -/
theorem changes_modifyReminders (hh : h.Apart) (n : Nat) (f : List Reminder → List Reminder) :
    Changes n (fun chat => { chat with reminders := f chat.reminders }) h
      (h.modifyReminders n f) := by
  unfold modifyReminders
  split
  · rename_i hnone
    refine ⟨hh, rfl, ?_, fun _ _ => rfl⟩
    unfold chat?
    rw [hnone]
    rfl
  · rename_i o ho
    have hvalid := hh.valid o (List.mem_of_getElem? ho)
    let after : Heap := { h with lists := h.lists.modify o.list f }
    have hhere : after.reminders o = f (h.reminders o) := by
      show ((h.lists.modify o.list f)[o.list]?).getD [] = f ((h.lists[o.list]?).getD [])
      rw [List.getElem?_modify_eq, List.getElem?_eq_getElem hvalid]
      rfl
    have helsewhere (other : ChatObject) (hother : o.list ≠ other.list) :
        after.reminders other = h.reminders other := by
      show ((h.lists.modify o.list f)[other.list]?).getD [] = (h.lists[other.list]?).getD []
      rw [List.getElem?_modify_ne _ _ hother]
    refine ⟨⟨fun other hother => ?_, hh.distinct⟩, rfl, ?_, fun m hm => ?_⟩
    · show other.list < (h.lists.modify o.list f).length
      rw [List.length_modify]
      exact hh.valid other hother
    · show (h.objects[n]?).map (fun other => other.chat (after.reminders other)) = _
      unfold chat?
      rw [ho, Option.map_some, Option.map_some, Option.map_some, hhere]
      rfl
    · show (h.objects[m]?).map (fun other => other.chat (after.reminders other)) = _
      unfold chat?
      cases hfound : h.objects[m]? with
      | none => rfl
      | some other =>
          have hlist : o.list ≠ other.list := fun hsame => hm (hh.eq_of_list hfound ho hsame.symm)
          rw [Option.map_some, Option.map_some, helsewhere other hlist]

theorem changes_setAlert (hh : h.Apart) (n : Nat) (value : Bool) :
    Changes n (fun chat => { chat with alert := value }) h (h.setAlert n value) :=
  changes_modify hh n (fun _ => rfl) fun _ _ => rfl

theorem changes_setLast (hh : h.Apart) (n : Nat) (value : Option Int) :
    Changes n (fun chat => { chat with last := value }) h (h.setLast n value) :=
  changes_modify hh n (fun _ => rfl) fun _ _ => rfl

/-- An object gets the alert, the last recording and the reminders of another one. -/
theorem changes_restore (hh : h.Apart) (n : Nat) {saved : Nat} {chat : Chat}
    (hsaved : h.chat? saved = some chat) :
    Changes n (fun old => old.restore chat) h (h.restore n saved) := by
  obtain ⟨s, hs, rfl⟩ := Option.map_eq_some_iff.mp hsaved
  unfold restore
  rw [hs]
  have halert := changes_setAlert hh n s.alert
  have hlast := changes_setLast halert.apart n s.last
  exact (halert.trans hlast).trans (changes_modifyReminders hlast.apart n fun _ => h.reminders s)

end BukuKas.Heap
