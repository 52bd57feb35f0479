import BukuKas.Reply.Recording
import Mathlib.Data.List.Induction

/-!
# Tenures

What a chat remembers for its user can be told from what its phone has done: it has logged in as
somebody or out, turned the alert on or off, added a reminder or removed one.  A tenure lasts from a
login until the phone logs out or logs in as somebody else; a login as the same user changes
nothing.

`Tenure.current` goes through the acts one by one.  The laws say what comes of it without going
through them: there is a tenure when some login has no logout after it, and what was set is what the
acts since the tenure began have set.

## Main results

* `current_isSome_iff` : when somebody is logged in.
* `of_current` : a tenure is an unbroken stretch of acts, and what that stretch has set.
* `user_eq_of_latest` : the user is that of the latest login.
-/

namespace BukuKas

/-- Something that a phone did and that its chat depends on. -/
inductive Act where
  | login (user : Int)
  | logout
  | alert (enabled : Bool)
  | remind (name : String) (day : Int)
  | unremind (index : Int)
  deriving DecidableEq

/-- What can be set in a chat. -/
structure Setup where
  alert : Bool := true
  reminders : List Reminder := []
  deriving DecidableEq

namespace Setup

/-- What is set after an act.  A reminder is removed by its number in the list, if there is such a
number. -/
def after (setup : Setup) : Act → Setup
  | .login _ => setup
  | .logout => setup
  | .alert enabled => { setup with alert := enabled }
  | .remind name day => { setup with reminders := setup.reminders ++ [⟨name, day⟩] }
  | .unremind index =>
      match Reply.nth? setup.reminders index with
      | none => setup
      | some _ => { setup with reminders := setup.reminders.eraseIdx (index - 1).toNat }

/-- What acts set, one after the other, from the alert turned on and no reminders. -/
def replay (acts : List Act) : Setup := acts.foldl after {}

theorem replay_concat (acts : List Act) (act : Act) :
    replay (acts ++ [act]) = (replay acts).after act :=
  List.foldl_append

end Setup

/-- An unbroken stretch of acts of a user: it begins with a login, and in it the phone neither logs
out nor logs in as somebody else. -/
structure Act.Unbroken (user : Int) (stretch : List Act) : Prop where
  begins : ∃ rest, stretch = .login user :: rest
  stays : .logout ∉ stretch
  same : ∀ other, .login other ∈ stretch → other = user

namespace Act.Unbroken

variable {user : Int} {stretch : List Act} {act : Act}

theorem single (user : Int) : Unbroken user [.login user] where
  begins := ⟨[], rfl⟩
  stays := by simp
  same other h := by simpa using h

theorem concat (h : Unbroken user stretch) (hstays : act ≠ .logout)
    (hsame : ∀ other, act = .login other → other = user) : Unbroken user (stretch ++ [act]) where
  begins := by
    obtain ⟨rest, hrest⟩ := h.begins
    exact ⟨rest ++ [act], by rw [hrest, List.cons_append]⟩
  stays hmem := by
    rcases List.mem_append.mp hmem with hmem | hmem
    · exact h.stays hmem
    · exact hstays (List.mem_singleton.mp hmem).symm
  same other hmem := by
    rcases List.mem_append.mp hmem with hmem | hmem
    · exact h.same other hmem
    · exact hsame other (List.mem_singleton.mp hmem).symm

end Act.Unbroken

/-- Who is logged in, and what was set since. -/
structure Tenure where
  user : Int
  setup : Setup := {}
  deriving DecidableEq

namespace Tenure

/-- The tenure after an act, if there is one. -/
def next : Option Tenure → Act → Option Tenure
  | _, .logout => none
  | none, .login user => some { user := user }
  | some t, .login user => if t.user = user then some t else some { user := user }
  | tenure, act => tenure.map fun t => { t with setup := t.setup.after act }

/-- The tenure that acts lead to, if one does. -/
def current (acts : List Act) : Option Tenure := acts.foldl next none

theorem current_concat (acts : List Act) (act : Act) :
    current (acts ++ [act]) = next (current acts) act :=
  List.foldl_append

variable {tenure : Option Tenure} {t : Tenure} {act : Act} {acts : List Act}

/-- A tenure after an act is the one before it, carried on, or has begun with it. -/
theorem of_next (h : next tenure act = some t) :
    (∃ before, tenure = some before ∧ act ≠ .logout ∧
        (∀ other, act = .login other → other = before.user) ∧
        t = { before with setup := before.setup.after act }) ∨
      (act = .login t.user ∧ t.setup = {} ∧ ∀ before, tenure = some before →
        before.user ≠ t.user) := by
  cases act with
  | logout => exact nomatch h
  | login user =>
      cases tenure with
      | none =>
          injection h with h
          subst h
          exact .inr ⟨rfl, rfl, fun _ hnone => nomatch hnone⟩
      | some before =>
          by_cases hsame : before.user = user
          · rw [next, if_pos hsame] at h
            injection h with h
            refine .inl ⟨before, rfl, nofun, fun other hother => ?_, h.symm⟩
            injection hother with hother
            exact (hsame.trans hother).symm
          · rw [next, if_neg hsame] at h
            injection h with h
            subst h
            refine .inr ⟨rfl, rfl, fun found hfound => ?_⟩
            injection hfound with hfound
            exact hfound ▸ hsame
  | alert _ | remind _ _ | unremind _ =>
      obtain ⟨before, rfl, ht⟩ := Option.map_eq_some_iff.mp h
      exact .inl ⟨before, rfl, nofun, nofun, ht.symm⟩

/-- Whoever is logged in stays so while the phone does not log out or log in as somebody else. -/
theorem user_foldl (hstays : .logout ∉ acts)
    (hsame : ∀ other, .login other ∈ acts → other = t.user) :
    ∃ last, acts.foldl next (some t) = some last ∧ last.user = t.user := by
  induction acts generalizing t with
  | nil => exact ⟨t, rfl, rfl⟩
  | cons act acts ih =>
      obtain ⟨hact, hrest⟩ := not_or.mp (mt List.mem_cons.mpr hstays)
      have hfirst : ∃ first, next (some t) act = some first ∧ first.user = t.user := by
        cases act with
        | logout => exact absurd rfl hact
        | login user =>
            have huser : t.user = user := (hsame user List.mem_cons_self).symm
            exact ⟨t, if_pos huser, rfl⟩
        | alert _ | remind _ _ | unremind _ => exact ⟨_, rfl, rfl⟩
      obtain ⟨first, hnext, huser⟩ := hfirst
      rw [List.foldl_cons, hnext]
      have hothers : ∀ other, .login other ∈ acts → other = first.user := fun other hother =>
        (hsame other (List.mem_cons_of_mem _ hother)).trans huser.symm
      obtain ⟨last, hlast, hlastUser⟩ := ih hrest hothers
      exact ⟨last, hlast, hlastUser.trans huser⟩

/-- An unbroken stretch of a user makes a tenure of the user, whatever was before. -/
theorem user_of_unbroken {user : Int} {stretch : List Act} (h : Act.Unbroken user stretch)
    (tenure : Option Tenure) :
    ∃ last, stretch.foldl next tenure = some last ∧ last.user = user := by
  obtain ⟨rest, rfl⟩ := h.begins
  have hfirst : ∃ first, next tenure (.login user) = some first ∧ first.user = user := by
    cases tenure with
    | none => exact ⟨_, rfl, rfl⟩
    | some before =>
        by_cases hsame : before.user = user
        · exact ⟨before, if_pos hsame, hsame⟩
        · exact ⟨{ user := user }, if_neg hsame, rfl⟩
  obtain ⟨first, hnext, rfl⟩ := hfirst
  rw [List.foldl_cons, hnext]
  exact user_foldl (fun hmem => h.stays (List.mem_cons_of_mem _ hmem)) fun other hmem =>
    h.same other (List.mem_cons_of_mem _ hmem)

/-- Somebody stays logged in until the phone logs out. -/
theorem isSome_foldl (hstays : .logout ∉ acts) (htenure : tenure.isSome = true) :
    (acts.foldl next tenure).isSome = true := by
  induction acts generalizing tenure with
  | nil => exact htenure
  | cons act acts ih =>
      obtain ⟨hact, hrest⟩ := not_or.mp (mt List.mem_cons.mpr hstays)
      obtain ⟨t, rfl⟩ := Option.isSome_iff_exists.mp htenure
      refine ih hrest ?_
      cases act with
      | logout => exact absurd rfl hact
      | login user =>
          simp only [next]
          split <;> rfl
      | alert _ | remind _ _ | unremind _ => rfl

/-- A tenure is the latest unbroken stretch of its user: it does not go on from an earlier one, and
what is set is what the stretch has set. -/
theorem of_current (h : current acts = some t) :
    ∃ earlier stretch, acts = earlier ++ stretch ∧ Act.Unbroken t.user stretch ∧
      (∀ longer, longer <:+ earlier → ¬Act.Unbroken t.user longer) ∧ t.setup = .replay stretch := by
  induction acts using List.reverseRecOn generalizing t with
  | nil => exact nomatch h
  | append_singleton acts act ih =>
      rw [current_concat] at h
      rcases of_next h with ⟨before, hbefore, hstays, hsame, rfl⟩ | ⟨rfl, hsetup, hother⟩
      · obtain ⟨earlier, stretch, rfl, hstretch, hlongest, hreplay⟩ := ih hbefore
        refine ⟨earlier, stretch ++ [act], by rw [List.append_assoc], hstretch.concat hstays hsame,
          hlongest, ?_⟩
        rw [Setup.replay_concat, ← hreplay]
      · refine ⟨acts, [.login t.user], rfl, .single t.user, ?_, hsetup⟩
        rintro longer ⟨front, rfl⟩ hlonger
        -- a stretch of the same user before the login would have made a tenure that goes on
        obtain ⟨last, hlast, huser⟩ := user_of_unbroken hlonger (current front)
        refine hother last ?_ huser
        rw [← hlast]
        exact List.foldl_append

/-- Somebody is logged in when some login has no logout after it. -/
theorem current_isSome_iff : (current acts).isSome = true ↔
    ∃ earlier user later, acts = earlier ++ .login user :: later ∧ .logout ∉ later := by
  constructor
  · intro h
    obtain ⟨t, ht⟩ := Option.isSome_iff_exists.mp h
    obtain ⟨earlier, stretch, rfl, hstretch, -, -⟩ := of_current ht
    obtain ⟨rest, rfl⟩ := hstretch.begins
    exact ⟨earlier, t.user, rest, rfl, fun hmem => hstretch.stays (List.mem_cons_of_mem _ hmem)⟩
  · rintro ⟨earlier, user, later, rfl, hstays⟩
    unfold current
    rw [List.foldl_append, List.foldl_cons]
    refine isSome_foldl hstays ?_
    obtain ⟨last, hlast, -⟩ := user_of_unbroken (.single user) (earlier.foldl next none)
    exact Option.isSome_iff_exists.mpr ⟨last, hlast⟩

/-- The user of a tenure is that of the latest login. -/
theorem user_eq_of_latest (h : current acts = some t) {earlier later : List Act} {user : Int}
    (hacts : acts = earlier ++ .login user :: later) (hlatest : ∀ other, .login other ∉ later) :
    t.user = user := by
  obtain ⟨front, stretch, rfl, hstretch, -, -⟩ := of_current h
  suffices hmem : .login user ∈ stretch from (hstretch.same user hmem).symm
  rcases List.append_eq_append_iff.mp hacts with ⟨middle, -, hstretch'⟩ | ⟨middle, -, hlater⟩
  · rw [hstretch']
    exact List.mem_append_right _ List.mem_cons_self
  · cases middle with
    | nil =>
        have hsame : .login user :: later = stretch := hlater
        exact hsame ▸ List.mem_cons_self
    | cons first middle =>
        -- the stretch would lie behind the latest login, and begins with a login
        obtain ⟨-, rfl⟩ := List.cons.inj hlater
        obtain ⟨rest, rfl⟩ := hstretch.begins
        exact absurd (List.mem_append_right middle List.mem_cons_self) (hlatest t.user)

end Tenure

end BukuKas
