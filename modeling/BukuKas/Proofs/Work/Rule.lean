import BukuKas.Work

/-!
# Rules for work

Work is data, so what it may do can be said of it before it is run: which queries it may ask, which
chats it may save, and which values it may end with, whatever the ledger answers on the way.  Work
that keeps to such a rule on every path keeps to it in every run, and the effect of a run can be
read off the rule alone.

No rule lets work begin or end a chat.

## Main results

* `keeps_bind`, `keeps_attempt` : rules are kept by composed work when its parts keep them.
* `fits_of_run` : the value of a run is one that the rule allows.
* `run_of_reading` : work that only reads changes nothing but the list of calls.
-/

namespace BukuKas

namespace Query

/-- The user whose rows or periods a query is about, if it is about one user. -/
def user? : Query → Option Int
  | .insert user _ => some user
  | .delete user _ => some user
  | .sumExpenses user _ _ => some user
  | .listTransactions user _ _ => some user
  | .listToday user _ => some user
  | .activePeriod user => some user
  | .categoryTotals user _ _ => some user
  | .dailyTotals user _ _ => some user
  | .expenseAmounts user => some user
  | .findUser _ => none
  | .commit => none
  | .rollback => none

/-- Whether a query leaves the writes of a unit of work as they are. -/
def reads : Query → Bool
  | .insert _ _ => false
  | .delete _ _ => false
  | .commit => false
  | .rollback => false
  | _ => true

/-- Whether the answer to a query shows rows one by one. -/
def lists : Query → Bool
  | .listTransactions _ _ _ => true
  | .listToday _ _ => true
  | _ => false

end Query

/-- What work may ask, which chats it may save, and whether it may look at the own chat. -/
structure Rule where
  asks : Query → Prop
  saves : Chat → Prop
  looks : Prop := False

namespace Rule

/-- The work asks for sums, days and periods of one user, and saves nothing. -/
def sums (user : Int) : Rule where
  asks q := q.user? = some user ∧ q.reads = true ∧ q.lists = false
  saves _ := False

/-- The work reads what one user has, and saves nothing. -/
def reading (user : Int) : Rule where
  asks q := q.user? = some user ∧ q.reads = true
  saves _ := False

/-- The work reads and writes for the user of a chat, and saves chats of the same user under the
same address and name. -/
def writing (chat : Chat) : Rule where
  asks q := q.user? = some chat.user
  saves new := chat.restore new = new

/-- The first rule allows no more than the second. -/
def Within (first second : Rule) : Prop :=
  (∀ q, first.asks q → second.asks q) ∧ (∀ chat, first.saves chat → second.saves chat) ∧
    (first.looks → second.looks)

theorem Within.refl (rule : Rule) : rule.Within rule :=
  ⟨fun _ h => h, fun _ h => h, fun h => h⟩

theorem sums_within_reading (user : Int) : (sums user).Within (reading user) :=
  ⟨fun _ h => ⟨h.1, h.2.1⟩, fun _ h => h, fun h => h⟩

theorem reading_within_writing (chat : Chat) : (reading chat.user).Within (writing chat) :=
  ⟨fun _ h => h.1, fun _ h => h.elim, fun h => h⟩

theorem sums_within_writing (chat : Chat) : (sums chat.user).Within (writing chat) :=
  ⟨fun _ h => h.1, fun _ h => h.elim, fun h => h⟩

end Rule

namespace Work

variable {α β : Type} {rule : Rule} {fits : α → Prop} {ends : β → Prop}

/-- Work keeps to a rule on every path, and ends, if with a value, with one that fits. -/
def Keeps (rule : Rule) (fits : α → Prop) : Work α → Prop
  | .done a => fits a
  | .fail _ => True
  | .ask q next => rule.asks q ∧ ∀ answer, (next answer).Keeps rule fits
  | .look next => rule.looks ∧ ∀ chat, (next chat).Keeps rule fits
  | .save chat next => rule.saves chat ∧ next.Keeps rule fits
  | .enter _ _ => False
  | .leave _ => False

/-! ## Composed work -/

theorem keeps_mono {rule' : Rule} {fits' : α → Prop} {t : Work α} (h : t.Keeps rule fits)
    (hrule : rule.Within rule') (hfits : ∀ a, fits a → fits' a) : t.Keeps rule' fits' := by
  induction t with
  | done a => exact hfits a h
  | fail fault => trivial
  | ask q next ih => exact ⟨hrule.1 q h.1, fun answer => ih answer (h.2 answer)⟩
  | look next ih => exact ⟨hrule.2.2 h.1, fun chat => ih chat (h.2 chat)⟩
  | save chat next ih => exact ⟨hrule.2.1 chat h.1, ih h.2⟩
  | enter chat next ih => exact h
  | leave next ih => exact h

theorem keeps_bind {t : Work α} {f : α → Work β} (ht : t.Keeps rule fits)
    (hf : ∀ a, fits a → (f a).Keeps rule ends) : (t >>= f).Keeps rule ends := by
  show (t.bind f).Keeps rule ends
  induction t with
  | done a => exact hf a ht
  | fail fault => trivial
  | ask q next ih => exact ⟨ht.1, fun answer => ih answer (ht.2 answer)⟩
  | look next ih => exact ⟨ht.1, fun chat => ih chat (ht.2 chat)⟩
  | save chat next ih => exact ⟨ht.1, ih ht.2⟩
  | enter chat next ih => exact ht
  | leave next ih => exact ht

theorem keeps_attempt {t : Work α} (h : t.Keeps rule fits) :
    t.attempt.Keeps rule fun result => ∀ a, result = .ok a → fits a := by
  induction t with
  | done a =>
      intro b hb
      injection hb with hb
      exact hb ▸ h
  | fail fault => exact fun _ hb => nomatch hb
  | ask q next ih => exact ⟨h.1, fun answer => ih answer (h.2 answer)⟩
  | look next ih => exact ⟨h.1, fun chat => ih chat (h.2 chat)⟩
  | save chat next ih => exact ⟨h.1, ih h.2⟩
  | enter chat next ih => exact h
  | leave next ih => exact h

theorem keeps_query {q : Query} (h : rule.asks q) : (query q).Keeps rule fun _ => True := by
  refine ⟨h, fun answer => ?_⟩
  cases answer <;> trivial

theorem keeps_put {chat : Chat} (h : rule.saves chat) : (put chat).Keeps rule fun _ => True :=
  ⟨h, trivial⟩

theorem keeps_ofExcept (result : Except Fault α) :
    (ofExcept result).Keeps rule fun a => result = .ok a := by
  cases result with
  | ok a => rfl
  | error fault => trivial

/-! ## Runs -/

section Run

variable {plan : FaultPlan} {phone : String}

/-- The value of a run is one that fits. -/
theorem fits_of_run {t : Work α} {d after : Desk} {a : α} (h : t.Keeps rule fits)
    (hrun : t.run plan phone d = (.ok a, after)) : fits a := by
  induction t generalizing d with
  | done b =>
      obtain ⟨hb, -⟩ := Prod.mk.inj hrun
      injection hb with hb
      exact hb ▸ h
  | fail fault => exact nomatch (Prod.mk.inj hrun).1
  | ask q next ih => exact ih _ (h.2 _) hrun
  | look next ih => exact ih _ (h.2 _) hrun
  | save chat next ih => exact ih h.2 hrun
  | enter chat next ih => exact h.elim
  | leave next ih => exact h.elim

end Run

end Work

namespace Draft

/-- A query that only reads leaves the draft as it is. -/
theorem perform_of_reads (d : Draft) {q : Query} (h : q.reads = true) : (d.perform q).2 = d := by
  cases q <;> first | rfl | exact nomatch h

end Draft

namespace Desk

variable {plan : FaultPlan}

@[simp] theorem chats_ask (d : Desk) (q : Query) : (d.ask plan q).2.chats = d.chats := by
  unfold ask
  dsimp only
  split <;> rfl

/-- The draft after a query: that of a failed call is the one before. -/
theorem draft_ask (plan : FaultPlan) (d : Desk) (q : Query) :
    (d.ask plan q).2.draft = d.draft ∨ (d.ask plan q).2.draft = (d.draft.perform q).2 := by
  unfold ask
  dsimp only
  split
  · exact .inl rfl
  · exact .inr rfl

/-- A query that is answered was performed. -/
theorem perform_of_ask {d : Desk} {q : Query} {a : q.Answer} (h : (d.ask plan q).1 = .ok a) :
    (d.draft.perform q).1 = .ok a ∧ (d.ask plan q).2.draft = (d.draft.perform q).2 := by
  unfold ask at h ⊢
  dsimp only at h ⊢
  split at h
  · exact nomatch h
  · rename_i hplan
    rw [if_neg hplan]
    exact ⟨h, rfl⟩

theorem draft_ask_of_reads (plan : FaultPlan) (d : Desk) {q : Query} (h : q.reads = true) :
    (d.ask plan q).2.draft = d.draft := by
  rcases draft_ask plan d q with hd | hd
  · exact hd
  · exact hd.trans (d.draft.perform_of_reads h)

end Desk

namespace Work

variable {α : Type} {rule : Rule} {fits : α → Prop} {plan : FaultPlan} {phone : String}

/-! ## Runs of single pieces -/

theorem run_bind_eq {β : Type} (t : Work α) (f : α → Work β) (d : Desk) :
    (t >>= f).run plan phone d =
      match t.run plan phone d with
      | (.ok a, after) => (f a).run plan phone after
      | (.error fault, after) => (.error fault, after) :=
  run_bind plan phone t f d

/-- Work that ends with a value is run part by part. -/
theorem run_bind_of_ok {β : Type} {t : Work α} {f : α → Work β} {d after : Desk} {a : α}
    (h : t.run plan phone d = (.ok a, after)) :
    (t >>= f).run plan phone d = (f a).run plan phone after := by
  rw [run_bind_eq, h]

/-- A run of composed work that ends with a value passes through one of its first part. -/
theorem ok_of_run_bind {β : Type} {t : Work α} {f : α → Work β} {d after : Desk} {b : β}
    (h : (t >>= f).run plan phone d = (.ok b, after)) :
    ∃ a mid, t.run plan phone d = (.ok a, mid) ∧ (f a).run plan phone mid = (.ok b, after) := by
  rw [run_bind_eq] at h
  split at h
  · rename_i a mid hrun
    exact ⟨a, mid, hrun, h⟩
  · exact nomatch (Prod.mk.inj h).1

@[simp] theorem run_query (q : Query) (d : Desk) : (query q).run plan phone d = d.ask plan q := by
  show (Work.run plan phone _ (d.ask plan q).2) = _
  cases hanswer : (d.ask plan q).1 <;> exact Prod.ext hanswer.symm rfl

/-- Work that goes on from what it reads, and ends with a value, was given the answer to its
query. -/
theorem ok_of_run_read {β : Type} {q : Query} {f : q.Answer → Work β} {d after : Desk} {b : β}
    (hreads : q.reads = true) (h : (query q >>= f).run plan phone d = (.ok b, after)) :
    ∃ answer mid, (d.draft.perform q).1 = .ok answer ∧ mid.draft = d.draft ∧
      (f answer).run plan phone mid = (.ok b, after) := by
  obtain ⟨answer, mid, hask, hrest⟩ := ok_of_run_bind h
  rw [run_query] at hask
  have hanswer : (d.ask plan q).1 = .ok answer := congrArg Prod.fst hask
  have hmid : (d.ask plan q).2 = mid := congrArg Prod.snd hask
  exact ⟨answer, mid, (Desk.perform_of_ask hanswer).1, hmid ▸ Desk.draft_ask_of_reads plan d hreads,
    hrest⟩

@[simp] theorem run_put (chat : Chat) (d : Desk) :
    (put chat).run plan phone d = (.ok (), d.save phone chat) := rfl

@[simp] theorem run_chat? (d : Desk) : chat?.run plan phone d = (.ok (d.chats.get? phone), d) := rfl

@[simp] theorem run_ofExcept (result : Except Fault α) (d : Desk) :
    (ofExcept result).run plan phone d = (result, d) := by
  cases result <;> rfl

/-- Work that only reads leaves the draft and the chats as they are. -/
theorem run_of_reading {user : Int} {t : Work α} (h : t.Keeps (Rule.reading user) fits)
    (plan : FaultPlan) (phone : String) (d : Desk) :
    (t.run plan phone d).2.draft = d.draft ∧ (t.run plan phone d).2.chats = d.chats := by
  induction t generalizing d with
  | done a => exact ⟨rfl, rfl⟩
  | fail fault => exact ⟨rfl, rfl⟩
  | ask q next ih =>
      obtain ⟨hdraft, hchats⟩ := ih _ (h.2 (d.ask plan q).1) (d.ask plan q).2
      exact ⟨hdraft.trans (d.draft_ask_of_reads plan h.1.2), hchats.trans (d.chats_ask q)⟩
  | look next ih => exact ih _ (h.2 _) d
  | save chat next ih => exact h.1.elim
  | enter chat next ih => exact h.elim
  | leave next ih => exact h.elim

end Work

end BukuKas
