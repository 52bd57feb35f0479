import BukuKas.Proofs.Roster
import BukuKas.Proofs.Session.Heap
import BukuKas.Session.Registry

/-!
# Checkpoints are frozen

A checkpoint is an object that no phone is ever bound to, and changes are made through phones only:
a chat that no phone has any more is put under one again before it is changed.  Since objects do not
share their reminders either, nothing that is done with the chats reaches a checkpoint, be it before
it was given back or after.

`Passage` lists what a step can do with the objects.  Everything that is proved of steps here goes
through this list.

## Main results

* `passage_perform` : every step does one of four things.
* `sound_after` : no phone is bound to a checkpoint, and no two objects share a list.
* `saved?_after` : a checkpoint stays as it is until it is taken again.
* `checkpoint_is_frozen` : what a checkpoint gives back, to whom, and what becomes of it.
-/

namespace BukuKas.Registry

open Heap (Changes)

variable {r next : Registry} {phone name : String} {step : Step} {steps : List Step} {n : Nat}

/-- Phones and names have objects that are there, no phone has that of a name, and no two objects
share their reminders. -/
structure Sound (r : Registry) : Prop where
  apart : r.heap.Apart
  bound : ∀ phone n, r.bound.get? phone = some n → n < r.heap.size
  saved : ∀ name n, r.saved.get? name = some n → n < r.heap.size
  separate : ∀ phone name n, r.bound.get? phone = some n → r.saved.get? name ≠ some n

theorem sound_empty : Sound {} := ⟨Heap.apart_empty, nofun, nofun, nofun⟩

/-- An object that is there and no checkpoint. -/
def Free (r : Registry) (n : Nat) : Prop := n < r.heap.size ∧ ∀ name, r.saved.get? name ≠ some n

/-- What a phone is bound to is no checkpoint. -/
theorem Sound.free (hr : r.Sound) (h : r.bound.get? phone = some n) : r.Free n :=
  ⟨hr.bound phone n h, fun name => hr.separate phone name n h⟩

theorem free_of_holdsChat (h : r.holdsChat n = true) : r.Free n := by
  unfold holdsChat at h
  rw [Bool.and_eq_true, decide_eq_true_eq, Bool.not_eq_true', ← Bool.not_eq_true,
    List.contains_iff_mem] at h
  exact ⟨h.1, fun name hname => h.2 (List.mem_map_of_mem (Roster.mem_items_of_find? hname))⟩

/-! ## What a step does with the objects -/

/-- What a step does with the objects. -/
inductive Passage (r : Registry) : Step → Registry → Prop where
  /-- No object is made or changed.  What phones are bound to now was there before, and is no
  checkpoint. -/
  | quiet {step : Step} {next : Registry} (hheap : next.heap = r.heap)
      (hsaved : next.saved = r.saved)
      (hbound : ∀ phone n, next.bound.get? phone = some n → r.Free n) :
      Passage r step next
  /-- A chat is made, and a phone is bound to it. -/
  | made (phone : String) (chat : Chat) : Passage r (.set phone chat) (r.set phone chat)
  /-- The chat of a phone is copied under a name. -/
  | taken {phone : String} (name : String) {n : Nat} (hbound : r.bound.get? phone = some n) :
      Passage r (.checkpoint phone name)
        { r with heap := r.heap.copy n, saved := r.saved.set name r.heap.size }
  /-- The chat of a phone is changed. -/
  | changed {step : Step} {phone : String} {n : Nat} {f : Chat → Chat} {heap : Heap}
      (hbound : r.bound.get? phone = some n) (hchanges : Changes n f r.heap heap) :
      Passage r step { r with heap := heap }

namespace Passage

/-- A step that was refused, or only asks, does nothing with the objects. -/
theorem refl (hr : r.Sound) (step : Step) : Passage r step r :=
  .quiet rfl rfl fun _ _ h => hr.free h

/-- A change of the chat of a phone that has one. -/
theorem of_change (hr : r.Sound) {f : Heap → Nat → Heap} {g : Chat → Chat}
    (h : ∀ n, Changes n g r.heap (f r.heap n)) :
    Passage r step (r.orRefused (r.change phone f)).2 := by
  unfold change
  cases hbound : r.bound.get? phone with
  | none => exact refl hr step
  | some n => exact .changed hbound (h n)

end Passage

theorem Sound.exists_saved (hr : r.Sound) (h : r.saved.get? name = some n) :
    ∃ chat, r.heap.chat? n = some chat :=
  Heap.exists_chat (hr.saved name n h)

/-- Every step does one of the four things. -/
theorem passage_perform (hr : r.Sound) (step : Step) : Passage r step (r.perform step).2 := by
  cases step with
  | set phone chat => exact .made phone chat
  | get phone | items | contains phone => exact .refl hr _
  | delete phone => exact .quiet rfl rfl fun other n h => hr.free (Roster.get?_of_erase h)
  | clear => exact .quiet rfl rfl nofun
  | checkpoint phone name =>
      show Passage r _ (r.orRefused (r.checkpoint phone name)).2
      unfold checkpoint
      cases hbound : r.bound.get? phone with
      | none => exact .refl hr _
      | some n => exact .taken name hbound
  | restore phone name =>
      show Passage r _ (r.orRefused (r.restore phone name)).2
      unfold restore
      cases hbound : r.bound.get? phone with
      | none => exact .refl hr _
      | some n =>
          cases hsaved : r.saved.get? name with
          | none => exact .refl hr _
          | some saved =>
              obtain ⟨chat, hchat⟩ := hr.exists_saved hsaved
              exact .changed hbound (Heap.changes_restore hr.apart n hchat)
  | showSaved name =>
      unfold perform
      dsimp only
      split <;> exact .refl hr _
  | alert phone value => exact .of_change hr fun n => Heap.changes_setAlert hr.apart n value
  | last phone value => exact .of_change hr fun n => Heap.changes_setLast hr.apart n value
  | remind phone reminder => exact .of_change hr fun n => Heap.changes_modifyReminders hr.apart n _
  | unremind phone index =>
      show Passage r _ (r.orRefused (r.unremind phone index)).2
      unfold unremind
      split
      · exact .refl hr _
      · split
        · exact .of_change hr fun n => Heap.changes_modifyReminders hr.apart n _
        · exact .refl hr _
  | share phone other =>
      show Passage r _ (r.orRefused (r.share phone other)).2
      unfold share
      cases hbound : r.bound.get? phone with
      | none => exact .refl hr _
      | some n =>
          refine .quiet rfl rfl fun third m h => ?_
          rcases Roster.get?_of_set h with rfl | hold
          · exact hr.free hbound
          · exact hr.free hold
  | put phone object =>
      show Passage r _ (r.orRefused (r.put phone object)).2
      unfold put
      split
      next hchat =>
        refine .quiet rfl rfl fun other m h => ?_
        rcases Roster.get?_of_set h with rfl | hold
        · exact free_of_holdsChat hchat
        · exact hr.free hold
      next => exact .refl hr _
  | hold phone =>
      show Passage r _ (r.hold phone).2
      unfold hold
      dsimp only
      split
      · exact .quiet rfl rfl fun other n h => hr.free h
      · exact .quiet rfl rfl fun other n h => hr.free h
  | drop phone =>
      show Passage r _ (r.orRefused (r.drop phone)).2
      unfold drop
      cases r.locks.keptFor? phone with
      | none => exact .refl hr _
      | some lock => exact .quiet rfl rfl fun other n h => hr.free h

/-- A step keeps phones and checkpoints apart. -/
theorem Sound.passage (hr : r.Sound) (h : r.Passage step next) : next.Sound := by
  cases h with
  | quiet hheap hsaved hbound =>
      refine ⟨hheap ▸ hr.apart, fun phone n h => ?_, fun name n h => ?_, fun phone name n h => ?_⟩
      · exact hheap ▸ (hbound phone n h).1
      · exact hheap ▸ hr.saved name n (hsaved ▸ h)
      · exact hsaved ▸ (hbound phone n h).2 name
  | made phone chat =>
      have hsize : (r.set phone chat).heap.size = r.heap.size + 1 := Heap.size_add ..
      refine ⟨hr.apart.add _ _, fun other n h => ?_, fun name n h => ?_, fun other name n h => ?_⟩
      · rcases Roster.get?_of_set h with hnew | hold
        · omega
        · have hlt := hr.bound other n hold
          omega
      · have hlt := hr.saved name n h
        omega
      · rcases Roster.get?_of_set h with hnew | hold
        · intro hsaved
          have hlt := hr.saved name n hsaved
          omega
        · exact hr.separate other name n hold
  | @taken phone taken n hbound =>
      obtain ⟨o, hcopy, -⟩ := Heap.exists_copy (hr.bound phone n hbound)
      have hsize : (r.heap.copy n).size = r.heap.size + 1 := by rw [hcopy, Heap.size_add]
      refine ⟨by rw [hcopy]; exact hr.apart.add o _, fun other m h => ?_, fun name m h => ?_,
        fun other name m h hsame => ?_⟩
      · have hlt := hr.bound other m h
        show m < (r.heap.copy n).size
        omega
      · show m < (r.heap.copy n).size
        rcases Roster.get?_of_set h with hnew | hold
        · omega
        · have hlt := hr.saved name m hold
          omega
      · have hlt := hr.bound other m h
        rcases Roster.get?_of_set hsame with hnew | hold
        · omega
        · exact hr.separate other name m h hold
  | changed hbound hchanges =>
      exact ⟨hchanges.apart, fun other m h => hchanges.size ▸ hr.bound other m h,
        fun name m h => hchanges.size ▸ hr.saved name m h, hr.separate⟩

/-- However phones and checkpoints were used, they are kept apart. -/
theorem sound_after (hr : r.Sound) (steps : List Step) : (after steps r).Sound := by
  induction steps generalizing r with
  | nil => exact hr
  | cons step steps ih => exact ih (hr.passage (passage_perform hr step))

/-! ## Checkpoints over time -/

/-- Whether a step takes the checkpoint of that name.  A phone without a chat has nothing to be
taken. -/
def takes (r : Registry) (name : String) : Step → Bool
  | .checkpoint phone other => other == name && (r.chat? phone).isSome
  | _ => false

/-- Whether none of the steps, one after the other, takes the checkpoint of that name. -/
def keeps (name : String) : List Step → Registry → Bool
  | [], _ => true
  | step :: steps, r => !r.takes name step && keeps name steps (r.perform step).2

theorem Sound.exists_chat (hr : r.Sound) (h : r.bound.get? phone = some n) :
    ∃ chat, r.heap.chat? n = some chat ∧ r.chat? phone = some chat := by
  obtain ⟨chat, hchat⟩ := Heap.exists_chat (hr.bound phone n h)
  refine ⟨chat, hchat, ?_⟩
  unfold chat?
  rw [h]
  exact hchat

/-- The object of a checkpoint is not changed and stays under its name, unless the checkpoint is
taken. -/
theorem saved?_passage (hr : r.Sound) (h : r.Passage step next)
    (hkeeps : r.takes name step = false) :
    next.saved? name = r.saved? name := by
  unfold saved?
  cases h with
  | quiet hheap hsaved hbound => rw [hheap, hsaved]
  | made phone chat =>
      cases hname : r.saved.get? name with
      | none =>
          show (r.saved.get? name).bind _ = _
          rw [hname]
          rfl
      | some n =>
          show (r.saved.get? name).bind _ = _
          rw [hname]
          exact hr.apart.chat?_add _ _ (hr.saved name n hname)
  | @taken phone taken n hbound =>
      have hother : name ≠ taken := by
        rintro rfl
        obtain ⟨chat, -, hchat⟩ := hr.exists_chat hbound
        simp [takes, hchat] at hkeeps
      obtain ⟨o, hcopy, -⟩ := Heap.exists_copy (hr.bound phone n hbound)
      show ((r.saved.set taken r.heap.size).get? name).bind (r.heap.copy n).chat? = _
      rw [Roster.get?_set_of_ne _ hother]
      cases hname : r.saved.get? name with
      | none => rfl
      | some m =>
          show (r.heap.copy n).chat? m = r.heap.chat? m
          rw [hcopy]
          exact hr.apart.chat?_add _ _ (hr.saved name m hname)
  | @changed _ phone n f heap hbound hchanges =>
      show (r.saved.get? name).bind heap.chat? = _
      cases hname : r.saved.get? name with
      | none => rfl
      | some m =>
          have hother : m ≠ n := by
            rintro rfl
            exact hr.separate phone name m hbound hname
          exact hchanges.elsewhere m hother

/-- A checkpoint stays as it is until it is taken again. -/
theorem saved?_after (hr : r.Sound) (hkeeps : keeps name steps r = true) :
    (after steps r).saved? name = r.saved? name := by
  induction steps generalizing r with
  | nil => rfl
  | cons step steps ih =>
      unfold keeps at hkeeps
      rw [Bool.and_eq_true, Bool.not_eq_true'] at hkeeps
      have hpassage := passage_perform hr step
      exact (ih (hr.passage hpassage) hkeeps.2).trans (saved?_passage hr hpassage hkeeps.1)

/-- A checkpoint that was taken is a copy of the chat. -/
theorem saved?_taken (hr : r.Sound) {chat : Chat} (hchat : r.chat? phone = some chat)
    (name : String) :
    (r.perform (.checkpoint phone name)).2.saved? name = some chat := by
  obtain ⟨n, hbound, hobject⟩ := Option.bind_eq_some_iff.mp hchat
  obtain ⟨o, hcopy, ho⟩ := Heap.exists_copy (hr.bound phone n hbound)
  have hperform : (r.perform (.checkpoint phone name)).2 =
      { r with heap := r.heap.copy n, saved := r.saved.set name r.heap.size } := by
    show (r.orRefused (r.checkpoint phone name)).2 = _
    unfold checkpoint
    rw [hbound]
    rfl
  rw [hperform]
  show ((r.saved.set name r.heap.size).get? name).bind (r.heap.copy n).chat? = some chat
  rw [Roster.get?_set_self, hcopy]
  exact (r.heap.chat?_add_self o _).trans (ho.symm.trans hobject)

/-- Giving a checkpoint back changes the object of the phone, and nothing else. -/
theorem exists_restore (hr : r.Sound) {saved : Chat} (hbound : r.bound.get? phone = some n)
    (hsaved : r.saved? name = some saved) : ∃ heap,
      r.perform (.restore phone name) = (.nothing, { r with heap := heap }) ∧
        Changes n (fun old => old.restore saved) r.heap heap := by
  obtain ⟨m, hname, hchat⟩ := Option.bind_eq_some_iff.mp hsaved
  refine ⟨r.heap.restore n m, ?_, Heap.changes_restore hr.apart n hchat⟩
  show r.orRefused (r.restore phone name) = _
  unfold restore
  rw [hbound]
  dsimp only
  rw [hname]
  rfl

/-- Whatever is done with chats and phones, a checkpoint that was taken of a chat stays as the chat
was, until it is taken again under the same name.  Given back to a phone with a chat, it makes the
alert, the last recording and the reminders of this chat those that were taken; user, address and
name stay.  The phones that share the chat see this and no other phone does, and every other object
stays as it is.  And whatever is done after that, the checkpoint still stays as the chat was. -/
theorem checkpoint_is_frozen {before : List Step} {taker name : String} {chat : Chat}
    (hchat : (after before {}).chat? taker = some chat) {between : List Step}
    (hkeeps : keeps name between ((after before {}).perform (.checkpoint taker name)).2 = true) :
    let r := after (before ++ .checkpoint taker name :: between) {}
    r.saved? name = some chat ∧
      ∀ phone n, r.bound.get? phone = some n → ∃ old, r.heap.chat? n = some old ∧
        (r.perform (.restore phone name)).1 = .nothing ∧
        let back := (r.perform (.restore phone name)).2
        back.heap.chat? n = some { old with
            alert := chat.alert, last := chat.last, reminders := chat.reminders } ∧
          (∀ other, r.bound.get? other = some n → back.chat? other = back.heap.chat? n) ∧
          (∀ other, r.bound.get? other ≠ some n → back.chat? other = r.chat? other) ∧
          (∀ m, m ≠ n → back.heap.chat? m = r.heap.chat? m) ∧
          ∀ later, keeps name later back = true → (after later back).saved? name = some chat := by
  intro r
  have hbefore := sound_after sound_empty before
  have htaken := hbefore.passage (passage_perform hbefore (.checkpoint taker name))
  have hr : r.Sound := sound_after sound_empty _
  have hsaved : r.saved? name = some chat := by
    show (after (before ++ .checkpoint taker name :: between) {}).saved? name = some chat
    rw [after_append]
    exact (saved?_after htaken hkeeps).trans (saved?_taken hbefore hchat name)
  refine ⟨hsaved, fun phone n hbound => ?_⟩
  obtain ⟨old, hold, -⟩ := hr.exists_chat hbound
  obtain ⟨heap, hperform, hchanges⟩ := exists_restore hr hbound hsaved
  have hpassage := passage_perform hr (.restore phone name)
  rw [hperform] at hpassage ⊢
  refine ⟨old, hold, rfl, ?_, fun other h => ?_, fun other h => ?_, hchanges.elsewhere,
    fun later hlater => ?_⟩
  · show heap.chat? n = _
    rw [hchanges.here, hold]
    rfl
  · show (r.bound.get? other).bind heap.chat? = heap.chat? n
    rw [h]
    rfl
  · show (r.bound.get? other).bind heap.chat? = (r.bound.get? other).bind r.heap.chat?
    cases hother : r.bound.get? other with
    | none => rfl
    | some m =>
        have hne : m ≠ n := by
          rintro rfl
          exact h hother
        exact hchanges.elsewhere m hne
  · rw [saved?_after (hr.passage hpassage) hlater, saved?_passage hr hpassage rfl]
    exact hsaved

/-- A chat with one reminder has two phones; it is taken, changed under both of them, given back
under the second, and changed again. -/
theorem checkpoint_is_frozen_of_two_phones :
    let budi :
    Chat := { user := 1, email := "budi@gmail.com", name := "budi", reminders := [⟨"Arisan", 10⟩] }
    let before : List Step := [.set "62" budi, .share "62" "63"]
    let between : List Step := [.last "62" (some 7), .alert "63" false, .unremind "62" 0,
      .remind "63" ⟨"Listrik", 5⟩, .checkpoint "63" "other", .checkpoint "64" "saved", .delete "62"]
    let later : List Step := [.remind "63" ⟨"Air", 7⟩, .restore "63" "other", .clear, .put "65" 0,
      .unremind "65" 0]
    let r := after (before ++ .checkpoint "62" "saved" :: between) {}
    let back := (r.perform (.restore "63" "saved")).2
    (after before {}).chat? "62" = some budi ∧
      keeps "saved" between ((after before {}).perform (.checkpoint "62" "saved")).2 = true ∧
      r.chat? "63" =
        some { budi with alert := false, last := some 7, reminders := [⟨"Listrik", 5⟩] } ∧
      r.saved? "saved" = some budi ∧ back.heap.chat? 0 = some budi ∧
      (after later back).saved? "saved" = some budi := by
  intro budi before between later r back
  have hchat : (after before {}).chat? "62" = some budi := by decide +kernel
  have hkeeps : keeps "saved" between ((after before {}).perform (.checkpoint "62" "saved")).2 =
      true := by
    decide +kernel
  obtain ⟨hsaved, hback⟩ := checkpoint_is_frozen hchat hkeeps
  obtain ⟨old, hold, -, hhere, -, -, -, hlater⟩ := hback "63" 0 (by decide +kernel)
  have hchanged : r.heap.chat? 0 =
      some { budi with alert := false, last := some 7, reminders := [⟨"Listrik", 5⟩] } := by
        decide +kernel
  obtain rfl := Option.some.inj (hold.symm.trans hchanged)
  have hshared : r.chat? "63" =
      some { budi with alert := false, last := some 7, reminders := [⟨"Listrik", 5⟩] } := by
        decide +kernel
  have hlater := hlater later (by decide +kernel)
  have hrestored : back.heap.chat? 0 = some budi := by rw [hhere]
  exact ⟨hchat, hkeeps, hshared, hsaved, hrestored, hlater⟩

end BukuKas.Registry
