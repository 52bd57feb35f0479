import BukuKas.Proofs.Work.Rule

/-!
# Work that succeeds

Work fails where it says so itself, or where the ledger does not answer.  When no call is made to
fail, the ledger answers every query that it can answer, and what its answers are like is known:
they come from rows and periods of which something is known.  A `Promise` says which queries are
answered and what may be taken for granted of the answers.  Work succeeds on a promise when no path
that the promise leaves open ends with a fault, and then it succeeds in every run on a ledger that
keeps the promise.

In difference to the rules for work, which allow a fault everywhere, success has to be shown of
every value that is computed on the way.

## Main results

* `succeeds_bind`, `succeeds_attempt` : composed work succeeds when its parts do.
* `run_of_succeeds` : work that succeeds on a promise runs to its end with a value that fits.
-/

namespace BukuKas

/-- What work may rely on: the queries that are answered, and what holds of the answers. -/
structure Promise where
  answers : Query → Prop
  grants : (q : Query) → q.Answer → Prop

/-- What is known of a draft keeps a promise: the queries are answered as they should be, and what
is known of the draft still holds after them. -/
def Promise.KeptBy (promise : Promise) (known : Draft → Prop) : Prop :=
  ∀ d q, known d → promise.answers q →
    (∃ a, (d.perform q).1 = .ok a ∧ promise.grants q a) ∧ known (d.perform q).2

/-- When no call is made to fail, the ledger performs what is asked. -/
theorem Desk.ask_none (d : Desk) (q : Query) :
    (d.ask .none q).1 = (d.draft.perform q).1 ∧ (d.ask .none q).2.draft = (d.draft.perform q).2 :=
  ⟨rfl, rfl⟩

namespace Work

variable {α β : Type} {promise : Promise} {fits : α → Prop} {ends : β → Prop}

/-- On every path that the promise leaves open, work ends with a value that fits. -/
def Succeeds (promise : Promise) (fits : α → Prop) : Work α → Prop
  | .done a => fits a
  | .fail _ => False
  | .ask q next =>
    promise.answers q ∧ ∀ a, promise.grants q a → (next (.ok a)).Succeeds promise fits
  | .look next => ∀ chat, (next chat).Succeeds promise fits
  | .save _ next => next.Succeeds promise fits
  | .enter _ next => next.Succeeds promise fits
  | .leave next => next.Succeeds promise fits

/-! ## Composed work -/

theorem succeeds_mono {fits' : α → Prop} {t : Work α} (h : t.Succeeds promise fits)
    (hfits : ∀ a, fits a → fits' a) : t.Succeeds promise fits' := by
  induction t with
  | done a => exact hfits a h
  | fail fault => exact h
  | ask q next ih => exact ⟨h.1, fun a ha => ih (.ok a) (h.2 a ha)⟩
  | look next ih => exact fun chat => ih chat (h chat)
  | save chat next ih => exact ih h
  | enter chat next ih => exact ih h
  | leave next ih => exact ih h

theorem succeeds_bind {t : Work α} {f : α → Work β} (ht : t.Succeeds promise fits)
    (hf : ∀ a, fits a → (f a).Succeeds promise ends) : (t >>= f).Succeeds promise ends := by
  show (t.bind f).Succeeds promise ends
  induction t with
  | done a => exact hf a ht
  | fail fault => exact ht.elim
  | ask q next ih => exact ⟨ht.1, fun a ha => ih (.ok a) (ht.2 a ha)⟩
  | look next ih => exact fun chat => ih chat (ht chat)
  | save chat next ih => exact ih ht
  | enter chat next ih => exact ih ht
  | leave next ih => exact ih ht

/-- Work that succeeds does so too when its fault would be caught. -/
theorem succeeds_attempt {t : Work α} (h : t.Succeeds promise fits) :
    t.attempt.Succeeds promise fun result => ∃ a, result = .ok a ∧ fits a := by
  induction t with
  | done a => exact ⟨a, rfl, h⟩
  | fail fault => exact h.elim
  | ask q next ih => exact ⟨h.1, fun a ha => ih (.ok a) (h.2 a ha)⟩
  | look next ih => exact fun chat => ih chat (h chat)
  | save chat next ih => exact ih h
  | enter chat next ih => exact ih h
  | leave next ih => exact ih h

theorem succeeds_query {q : Query} (h : promise.answers q) :
    (query q).Succeeds promise (promise.grants q) :=
  ⟨h, fun _ ha => ha⟩

theorem succeeds_put (chat : Chat) : (put chat).Succeeds promise fun _ => True := trivial

theorem succeeds_chat? : chat?.Succeeds promise fun _ => True := fun _ => trivial

theorem succeeds_ofExcept {result : Except Fault α} (h : ∃ a, result = .ok a) :
    (ofExcept result).Succeeds promise fun a => result = .ok a := by
  obtain ⟨a, rfl⟩ := h
  rfl

/-! ## Runs -/

section Run

variable {known : Draft → Prop}

/-- Work that succeeds on a promise runs to its end where the promise is kept. -/
theorem run_of_succeeds {t : Work α} (h : t.Succeeds promise fits) (hkept : promise.KeptBy known)
    (phone : String) {d : Desk} (hd : known d.draft) :
    ∃ a after, t.run .none phone d = (.ok a, after) ∧ fits a ∧ known after.draft := by
  induction t generalizing d with
  | done a => exact ⟨a, d, rfl, h, hd⟩
  | fail fault => exact h.elim
  | ask q next ih =>
      obtain ⟨⟨a, ha, hgrants⟩, hknown⟩ := hkept d.draft q hd h.1
      obtain ⟨hanswer, hdraft⟩ := d.ask_none q
      rw [← hdraft] at hknown
      have hrun := ih (.ok a) (h.2 a hgrants) hknown
      rw [← ha, ← hanswer] at hrun
      exact hrun
  | look next ih => exact ih _ (h _) hd
  | save chat next ih =>
      refine ih h ?_
      unfold Desk.save
      split <;> exact hd
  | enter chat next ih => exact ih h hd
  | leave next ih => exact ih h hd

end Run

end Work

end BukuKas
