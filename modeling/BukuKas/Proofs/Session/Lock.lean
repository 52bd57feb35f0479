import BukuKas.Proofs.Roster
import BukuKas.Session.Registry
import Mathlib.Data.List.Dedup

/-!
# One lock for a phone

Whoever takes the lock of a phone has a reference to it until he lets it go.  The table itself does
not know when a reference was taken; here references remember how often all locks had been forgotten
by then, so that those of today can be told from those that a clearing has cut off.

`Backs` says how the table and the references that are kept belong together: exactly the locks with
a reference of today are alive, and a lock is handed out for one phone and between two clearings
only.

## Main results

* `Backs.take`, `Backs.release`, `Backs.forget` : what can be done with locks keeps the table
  backed.
* `backs_run` : however registry and locks were used, the references that are kept back the table.
* `one_lock_of_phone` : there is one lock for a phone as long as somebody keeps a reference to it.
-/

namespace BukuKas

namespace LockTable

/-- A reference to the lock of a phone that somebody has taken. -/
structure Reference where
  phone : String
  lock : Nat
  /-- How often all locks had been forgotten before. -/
  clears : Nat
  deriving DecidableEq

/-- What the table knows of a reference. -/
def Reference.entry (reference : Reference) : String × Nat := (reference.phone, reference.lock)

/-- The references that are kept after so many clearings belong to the table. -/
structure Backs (references : List Reference) (clears : Nat) (t : LockTable) : Prop where
  kept : t.kept = references.map Reference.entry
  old : ∀ reference ∈ references, reference.lock < t.next
  past : ∀ reference ∈ references, reference.clears ≤ clears
  single : ∀ first ∈ references, ∀ second ∈ references, first.lock = second.lock → first = second
  live : ∀ phone lock, t.live.get? phone = some lock ↔ ⟨phone, lock, clears⟩ ∈ references

variable {references : List Reference} {reference : Reference} {clears : Nat} {t : LockTable}

theorem backs_empty : Backs [] 0 {} := ⟨rfl, nofun, nofun, nofun, by simp⟩

namespace Backs

/-- Taking a lock hands out the one that is alive, or a new one. -/
theorem take (h : Backs references clears t) (phone : String) :
    Backs (references ++ [⟨phone, (t.take phone).1, clears⟩]) clears (t.take phone).2 := by
  unfold LockTable.take
  cases hlive : t.live.get? phone with
  | some lock =>
      have hmem : ⟨phone, lock, clears⟩ ∈ references := (h.live phone lock).mp hlive
      have hsame (reference : Reference) :
          reference ∈ references ++ [⟨phone, lock, clears⟩] ↔ reference ∈ references := by
        rw [List.mem_append, List.mem_singleton]
        exact or_iff_left_of_imp fun heq => heq ▸ hmem
      refine ⟨?_, ?_, ?_, ?_, fun other lock => (h.live other lock).trans (hsame _).symm⟩
      · show t.kept ++ [(phone, lock)] = _
        rw [h.kept, List.map_append]
        rfl
      · exact fun reference hreference => h.old _ ((hsame _).mp hreference)
      · exact fun reference hreference => h.past _ ((hsame _).mp hreference)
      · exact fun first hfirst second hsecond =>
          h.single _ ((hsame _).mp hfirst) _ ((hsame _).mp hsecond)
  | none =>
      have hmem (reference : Reference) : reference ∈ references ++ [⟨phone, t.next, clears⟩] ↔
          reference ∈ references ∨ reference = ⟨phone, t.next, clears⟩ := by
        rw [List.mem_append, List.mem_singleton]
      refine ⟨?_, fun reference hreference => ?_, fun reference hreference => ?_,
        fun first hfirst second hsecond hlock => ?_, fun other lock => ?_⟩
      · show t.kept ++ [(phone, t.next)] = _
        rw [h.kept, List.map_append]
        rfl
      · show reference.lock < t.next + 1
        rcases (hmem _).mp hreference with hmem | rfl
        · exact Nat.lt_succ_of_lt (h.old _ hmem)
        · exact Nat.lt_succ_self _
      · rcases (hmem _).mp hreference with hmem | rfl
        · exact h.past _ hmem
        · exact Nat.le_refl _
      · -- a reference to the new lock is the new one, since the number is larger than all before
        rcases (hmem _).mp hfirst with hfirst | rfl <;>
          rcases (hmem _).mp hsecond with hsecond | rfl
        · exact h.single _ hfirst _ hsecond hlock
        · exact absurd hlock (Nat.ne_of_lt (h.old _ hfirst))
        · exact absurd hlock.symm (Nat.ne_of_lt (h.old _ hsecond))
        · rfl
      · show (t.live.set phone t.next).get? other = some lock ↔ _
        rw [hmem]
        by_cases hother : other = phone
        · subst hother
          rw [Roster.get?_set_self, ← h.live, hlive]
          simp [eq_comm]
        · rw [Roster.get?_set_of_ne _ hother, h.live]
          simp [hother]

theorem map_erase (h : Backs references clears t) (hmem : reference ∈ references) :
    (references.erase reference).map Reference.entry =
      (references.map Reference.entry).erase reference.entry := by
  have hsingle : ∀ other ∈ references, other.entry = reference.entry → other = reference :=
    fun other hother heq => h.single _ hother _ hmem (congrArg Prod.snd heq)
  clear h hmem
  induction references with
  | nil => rfl
  | cons first rest ih =>
      have ih := ih fun other hother => hsingle other (List.mem_cons_of_mem _ hother)
      by_cases hfirst : first = reference
      · rw [hfirst, List.erase_cons_head, List.map_cons, List.erase_cons_head]
      · have hentry : first.entry ≠ reference.entry :=
          fun heq => hfirst (hsingle _ List.mem_cons_self heq)
        rw [List.erase_cons_tail (by simpa using hfirst), List.map_cons, List.map_cons,
          List.erase_cons_tail (by simpa using hentry), ih]

/-- The table knows whether a reference that is let go was the last one to its lock. -/
theorem contains_erase_iff (h : Backs references clears t) (hmem : reference ∈ references) :
    (t.kept.erase reference.entry).contains reference.entry = true ↔
      reference ∈ references.erase reference := by
  rw [h.kept, ← h.map_erase hmem, List.contains_iff_mem]
  refine ⟨fun hentry => ?_, List.mem_map_of_mem⟩
  obtain ⟨other, hother, heq⟩ := List.mem_map.mp hentry
  rwa [h.single _ (List.mem_of_mem_erase hother) _ hmem (congrArg Prod.snd heq)] at hother

/-- When a reference is let go, all that is to be said is which locks are alive. -/
theorem of_erase (h : Backs references clears t) (hmem : reference ∈ references) {live : Roster Nat}
    (hlive : ∀ phone lock, live.get? phone = some lock ↔
      ⟨phone, lock, clears⟩ ∈ references.erase reference) :
    Backs (references.erase reference) clears
      { t with kept := t.kept.erase reference.entry, live := live } := by
  have hformer : ∀ other ∈ references.erase reference, other ∈ references :=
    fun _ => List.mem_of_mem_erase
  refine ⟨?_, fun other hother => h.old _ (hformer _ hother),
    fun other hother => h.past _ (hformer _ hother), fun first hfirst second hsecond =>
      h.single _ (hformer _ hfirst) _ (hformer _ hsecond), hlive⟩
  show t.kept.erase reference.entry = _
  rw [h.kept, h.map_erase hmem]

/-- A lock goes with its last reference, and not before. -/
theorem release (h : Backs references clears t) (hmem : reference ∈ references) :
    Backs (references.erase reference) clears (t.release reference.phone reference.lock) := by
  have hcontains := h.contains_erase_iff hmem
  unfold LockTable.release
  dsimp only
  split
  next hlast =>
    rw [Bool.and_eq_true, decide_eq_true_eq, Bool.not_eq_true', ← Bool.not_eq_true] at hlast
    obtain ⟨hlive, hlast⟩ := hlast
    refine h.of_erase hmem fun phone lock => ?_
    by_cases hphone : phone = reference.phone
    · subst hphone
      rw [Roster.get?_erase_self]
      refine iff_of_false nofun fun hother => hlast (hcontains.mpr ?_)
      -- what is alive is one lock, so another reference of today would be to the same one
      have hlock : lock = reference.lock :=
        Option.some.inj (((h.live _ lock).mpr (List.mem_of_mem_erase hother)).symm.trans hlive)
      rwa [h.single _ (List.mem_of_mem_erase hother) _ hmem hlock] at hother
    · rw [Roster.get?_erase_of_ne _ hphone, h.live, List.mem_erase_of_ne]
      rintro rfl
      exact hphone rfl
  next hshared =>
    rw [Bool.and_eq_true, decide_eq_true_eq, Bool.not_eq_true', ← Bool.not_eq_true] at hshared
    refine h.of_erase hmem fun phone lock => ⟨fun hlive => ?_, fun hother => ?_⟩
    · by_cases hsame : ⟨phone, lock, clears⟩ = reference
      · subst hsame
        exact hcontains.mp (not_not.mp fun hlast => hshared ⟨hlive, hlast⟩)
      · exact (List.mem_erase_of_ne hsame).mpr ((h.live _ _).mp hlive)
    · exact (h.live _ _).mpr (List.mem_of_mem_erase hother)

/-- When all locks are forgotten no reference is one of today. -/
theorem forget (h : Backs references clears t) : Backs references (clears + 1) t.forget where
  kept := h.kept
  old := h.old
  past _ hreference := Nat.le_succ_of_le (h.past _ hreference)
  single := h.single
  live _ _ := iff_of_false nofun fun hmem => Nat.not_succ_le_self _ (h.past _ hmem)

/-- What the table finds for a phone is what its earliest reference is to. -/
theorem keptFor?_eq (h : Backs references clears t) (phone : String) :
    t.keptFor? phone =
      (references.find? fun reference => reference.phone == phone).map Reference.lock := by
  unfold keptFor?
  rw [h.kept, List.find?_map, Option.map_map]
  rfl

/-- So many locks are alive as there are phones with references of today. -/
theorem count_eq (h : Backs references clears t) :
    t.count =
      ((references.filter fun reference => reference.clears == clears).map
        Reference.phone).dedup.length := by
  have hnames : t.live.names.Perm
      ((references.filter fun reference => reference.clears == clears).map
        Reference.phone).dedup := by
    refine (List.perm_ext_iff_of_nodup t.live.nodup (List.nodup_dedup _)).mpr fun phone => ?_
    rw [List.mem_dedup, ← Roster.names, Roster.mem_names_iff, List.mem_map]
    constructor
    · rintro ⟨lock, hlive⟩
      exact ⟨_, List.mem_filter.mpr ⟨(h.live _ _).mp hlive, beq_self_eq_true _⟩, rfl⟩
    · rintro ⟨reference, hreference, rfl⟩
      obtain ⟨hmem, hclears⟩ := List.mem_filter.mp hreference
      obtain rfl := eq_of_beq hclears
      exact ⟨reference.lock, (h.live _ _).mpr hmem⟩
  show t.live.items.length = _
  rw [← hnames.length_eq]
  exact (List.length_map _).symm

end Backs

end LockTable

namespace Registry

open LockTable (Reference Backs)

/-! ## A registry in use -/

/-- A registry, the references to locks that were taken and not let go, and how often it was
cleared. -/
structure Usage where
  registry : Registry := {}
  references : List Reference := []
  clears : Nat := 0

/-- What can be done with a registry and its locks. -/
inductive Deed where
  /-- The lock of a phone is taken and kept. -/
  | take (phone : String)
  /-- One that is kept is let go. -/
  | letGo (reference : Reference)
  /-- Anything that can be done with a registry. -/
  | step (step : Step)

namespace Usage

/-- The references that were taken since the registry was cleared last. -/
def recent (u : Usage) : List Reference :=
  u.references.filter fun reference => reference.clears == u.clears

/-- The reference that is handed out for a phone. -/
def handed (u : Usage) (phone : String) : Reference :=
  ⟨phone, (u.registry.locks.take phone).1, u.clears⟩

/-- The earliest reference that is kept for a phone. -/
def earliest? (u : Usage) (phone : String) : Option Reference :=
  u.references.find? fun reference => reference.phone == phone

/-- The references that are kept after a step.  Only holding and dropping have to do with them. -/
def referencesAfter (u : Usage) : Step → List Reference
  | .hold phone =>
    match u.earliest? phone with
    | none => u.references ++ [u.handed phone]
    | some reference => (u.references ++ [u.handed phone]).erase reference
  | .drop phone =>
    match u.earliest? phone with
    | none => u.references
    | some reference => u.references.erase reference
  | _ => u.references

/-- What comes of a deed.  What is not kept cannot be let go. -/
def act (u : Usage) : Deed → Usage
  | .take phone =>
    { u with
      registry := { u.registry with locks := (u.registry.locks.take phone).2 }
      references := u.references ++ [u.handed phone] }
  | .letGo reference =>
    if reference ∈ u.references then
      { u with
        registry :=
          { u.registry with locks := u.registry.locks.release reference.phone reference.lock }
        references := u.references.erase reference }
    else u
  | .step step => {
      registry := (u.registry.perform step).2
      references := u.referencesAfter step
      clears := if step = .clear then u.clears + 1 else u.clears }

/-- What comes of several deeds. -/
def run (deeds : List Deed) (u : Usage) : Usage := deeds.foldl act u

end Usage

/-- A step that neither clears nor holds nor drops does nothing with the locks. -/
theorem locks_perform (r : Registry) {step : Step} (hclear : step ≠ .clear)
    (hhold : ∀ phone, step ≠ .hold phone)
    (hdrop : ∀ phone, step ≠ .drop phone) : (r.perform step).2.locks = r.locks := by
  have hchange (phone : String) (f : Heap → Nat → Heap) : (r.orRefused (r.change phone f)).2.locks =
      r.locks := by
    unfold change
    split <;> rfl
  cases step with
  | set | get | delete | items | contains => rfl
  | clear => exact absurd rfl hclear
  | hold phone => exact absurd rfl (hhold phone)
  | drop phone => exact absurd rfl (hdrop phone)
  | checkpoint phone name =>
      show (r.orRefused (r.checkpoint phone name)).2.locks = r.locks
      unfold checkpoint
      split <;> rfl
  | restore phone name =>
      show (r.orRefused (r.restore phone name)).2.locks = r.locks
      unfold restore
      split
      · rfl
      · split <;> rfl
  | showSaved name =>
      unfold perform
      dsimp only
      split <;> rfl
  | alert phone | last phone | remind phone => exact hchange phone _
  | unremind phone index =>
      show (r.orRefused (r.unremind phone index)).2.locks = r.locks
      unfold unremind
      split
      · rfl
      · split
        · exact hchange phone _
        · rfl
  | share phone other =>
      show (r.orRefused (r.share phone other)).2.locks = r.locks
      unfold share
      split <;> rfl
  | put phone object =>
      show (r.orRefused (r.put phone object)).2.locks = r.locks
      unfold put
      split <;> rfl

variable {u : Usage}

/-- The references back the table of the registry. -/
def Usage.Backed (u : Usage) : Prop := Backs u.references u.clears u.registry.locks

/-- A step keeps the table backed. -/
theorem Usage.Backed.step (h : u.Backed) (step : Step) : (u.act (.step step)).Backed := by
  by_cases hclear : step = .clear
  · subst hclear
    exact Backs.forget h
  have hclears : (u.act (.step step)).clears = u.clears := if_neg hclear
  unfold Backed
  rw [hclears]
  by_cases hhold : ∃ phone, step = .hold phone
  · obtain ⟨phone, rfl⟩ := hhold
    have htaken := Backs.take h phone
    show Backs (u.referencesAfter (.hold phone)) u.clears (u.registry.hold phone).2.locks
    unfold hold referencesAfter
    dsimp only
    rw [Backs.keptFor?_eq h]
    unfold earliest?
    cases hfind : u.references.find? fun reference => reference.phone == phone with
    | none => exact htaken
    | some reference =>
        obtain rfl : reference.phone = phone := by simpa using List.find?_some hfind
        exact htaken.release (List.mem_append_left _ (List.mem_of_find?_eq_some hfind))
  by_cases hdrop : ∃ phone, step = .drop phone
  · obtain ⟨phone, rfl⟩ := hdrop
    show Backs (u.referencesAfter (.drop phone)) u.clears
      (u.registry.orRefused (u.registry.drop phone)).2.locks
    unfold drop referencesAfter
    rw [Backs.keptFor?_eq h]
    unfold earliest?
    dsimp only
    cases hfind : u.references.find? fun reference => reference.phone == phone with
    | none => exact h
    | some reference =>
        obtain rfl : reference.phone = phone := by simpa using List.find?_some hfind
        exact Backs.release h (List.mem_of_find?_eq_some hfind)
  · have hreferences : u.referencesAfter step = u.references := by
      cases step with
      | hold phone => exact absurd ⟨phone, rfl⟩ hhold
      | drop phone => exact absurd ⟨phone, rfl⟩ hdrop
      | _ => rfl
    show Backs (u.referencesAfter step) u.clears (u.registry.perform step).2.locks
    rw [hreferences, locks_perform _ hclear (fun phone heq => hhold ⟨phone, heq⟩)
      fun phone heq => hdrop ⟨phone, heq⟩]
    exact h

/-- A deed keeps the table backed. -/
theorem Usage.Backed.act (h : u.Backed) (deed : Deed) : (u.act deed).Backed := by
  cases deed with
  | take phone => exact Backs.take h phone
  | letGo reference =>
      unfold Usage.act
      dsimp only
      split
      next hmem => exact Backs.release h hmem
      next => exact h
  | step step => exact h.step step

/-- However registry and locks were used, the references that are kept back the table. -/
theorem backs_run (h : u.Backed) (deeds : List Deed) : (u.run deeds).Backed := by
  induction deeds generalizing u with
  | nil => exact h
  | cons deed deeds ih => exact ih (h.act deed)

/-- Locks are taken, kept and let go for any phones, and anything is done with the registry in
between.  Then all references for one phone that were taken since the last clearing and are still
kept are to the same lock, and references for different phones are to different ones.  A lock is
alive exactly when somebody keeps such a reference to it, and so many locks are alive as there are
phones with such references.  To bind and unbind phones, and to look at their chats, does nothing
with the locks. -/
theorem one_lock_of_phone (deeds : List Deed) :
    let u := Usage.run deeds {}
    (∀ first ∈ u.recent, ∀ second ∈ u.recent, first.phone = second.phone →
      first.lock = second.lock) ∧
      (∀ first ∈ u.references, ∀ second ∈ u.references,
        first.phone ≠ second.phone → first.lock ≠ second.lock) ∧
      (∀ phone lock, u.registry.locks.live.get? phone = some lock ↔
        ∃ reference ∈ u.recent, reference.phone = phone ∧ reference.lock = lock) ∧
      u.registry.locks.count = (u.recent.map Reference.phone).dedup.length ∧
      ∀ phone chat, ∀ step ∈ [Step.set phone chat, .get phone, .delete phone, .items],
        (u.act (.step step)).registry.locks = u.registry.locks := by
  intro u
  have h : Backs u.references u.clears u.registry.locks :=
    backs_run (u := {}) LockTable.backs_empty deeds
  have hrecent (reference : Reference) (hreference : reference ∈ u.recent) :
      u.registry.locks.live.get? reference.phone = some reference.lock := by
    obtain ⟨hmem, hclears⟩ := List.mem_filter.mp hreference
    rw [h.live, ← eq_of_beq hclears]
    exact hmem
  refine ⟨fun first hfirst second hsecond hphone => ?_,
    fun first hfirst second hsecond hphone hlock => ?_, fun phone lock => ⟨fun hlive => ?_, ?_⟩,
    h.count_eq, fun phone chat step hstep => ?_⟩
  · exact Option.some.inj ((hrecent _ hfirst).symm.trans (hphone ▸ hrecent _ hsecond))
  · exact hphone (congrArg Reference.phone (h.single _ hfirst _ hsecond hlock))
  · exact ⟨_, List.mem_filter.mpr ⟨(h.live _ _).mp hlive, beq_self_eq_true _⟩, rfl, rfl⟩
  · rintro ⟨reference, hreference, rfl, rfl⟩
    exact hrecent _ hreference
  · simp only [List.mem_cons, List.not_mem_nil, or_false] at hstep
    rcases hstep with rfl | rfl | rfl | rfl <;> rfl

/-- A reference from before a clearing goes without the lock that was handed out since. -/
example :
    let u := Usage.run
      [.take "62", .step .clear, .step (.hold "63"), .take "62", .letGo ⟨"62", 0, 0⟩] {}
    u.references = [⟨"63", 1, 1⟩, ⟨"62", 2, 1⟩] ∧ u.registry.locks.count = 2 := by
  decide +kernel

end Registry

end BukuKas
