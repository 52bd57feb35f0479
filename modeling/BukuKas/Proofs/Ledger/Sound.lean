import BukuKas.Proofs.Ledger.Cash
import BukuKas.Proofs.Period
import BukuKas.Proofs.Reply.Effect
import BukuKas.Proofs.Work.Success
import BukuKas.Proofs.Work.Tenancy

/-!
# Sound ledgers

A ledger is sound when its periods run forward and have budgets of two decimals, its amounts are
moderate, and what each user spent together is not beyond all measure.  On a draft of such a ledger
every query is answered with periods and amounts that can be computed with: that is `Promise.sound`.

Sums are another matter.  Recordings of one message may be many, so no bound on sums outlives them;
sums are bounded as long as nothing is recorded, and `Promise.modest` says so.

## Main results

* `keptBy_sound` : drafts of sound ledgers stay sound, and answer as promised.
* `keptBy_modest` : without recordings sums stay bounded, too.
-/

namespace BukuKas

open Calendar (Date)
open Number (Binary64 Decimal OnGrid quantaPerOne nearestInt)

/-! ## Amounts -/

namespace Cash

/-- The amount is less than so many units. -/
def Below (limit : Nat) : Cash → Prop
  | .hundredths n => n < 100 * limit

theorem below_mono {a : Cash} {limit more : Nat} (h : a.Below limit) (hle : limit ≤ more) :
    a.Below more :=
  Nat.lt_of_lt_of_le h (Nat.mul_le_mul_left 100 hle)

/-- An amount below a bound is a number of about that size as a double. -/
theorem within_toDouble {a : Cash} {limit : Nat} (h : a.Below limit)
    (hlimit : limit < Binary64.boundLimit) : a.toDouble.Within (2 * limit + 1) := by
  rw [toDouble_eq]
  apply Binary64.within_ofRatio (show 0 < 100 by decide) hlimit
  have hn : a.count < 100 * limit := h
  rw [Int.natAbs_natCast]
  omega

/-- Some of the amounts are together at most all of them. -/
theorem count_total_le {xs ys : List Cash} (h : xs.Sublist ys) :
    (total xs).count ≤ (total ys).count := by
  induction h with
  | slnil => exact Nat.le_refl _
  | cons a _ ih => exact Nat.le_trans ih (Nat.le_add_left _ _)
  | cons_cons a _ ih => exact Nat.add_le_add_left ih _

theorem below_total_of_sublist {xs ys : List Cash} {limit : Nat} (hsub : xs.Sublist ys)
    (h : (total ys).Below limit) : (total xs).Below limit :=
  Nat.lt_of_le_of_lt (count_total_le hsub) h

end Cash

/-- The bound of single amounts. -/
def amountLimit : Nat := Number.tenTo 13

/-- The bound of what a user spent together. -/
def sumLimit : Nat := Number.tenTo 100

/-- The amount of the entry is one that is still positive when it is kept with two decimals. -/
def Entry.Keepable (e : Entry) : Prop :=
  0 < e.amount.toTwoPlaces ∧ e.amount < Binary64.ofNat amountLimit

namespace Entry

theorem amountLimit_eq : ∃ hgrid, Binary64.ofNat amountLimit =
    .finite ((amountLimit * quantaPerOne : Nat) : Int) hgrid :=
  ⟨by decide +kernel, by decide +kernel⟩

/-- A keepable amount is a number below the bound, and more than half a hundredth. -/
theorem Keepable.quanta {e : Entry} (h : e.Keepable) :
    ∃ (q : Nat) (hgrid : OnGrid (q : Int).natAbs), e.amount = .finite q hgrid ∧
      q < amountLimit * quantaPerOne ∧ quantaPerOne < 200 * q := by
  obtain ⟨hpositive, hsmall⟩ := h
  obtain ⟨hlimit, hlimitEq⟩ := amountLimit_eq
  rw [hlimitEq] at hsmall
  cases hamount : e.amount with
  | nan =>
      rw [hamount] at hsmall
      exact nomatch hsmall
  | infinite negative =>
      rw [hamount] at hsmall hpositive
      obtain ⟨hzero, hzeroEq⟩ := Binary64.zero_eq
      have hinfinite : (0 : Binary64) < .infinite negative := hpositive
      rw [hzeroEq, Binary64.finite_lt_infinite_iff, Binary64.infinite_lt_finite_iff.mp hsmall]
        at hinfinite
      exact nomatch hinfinite
  | finite quanta hgrid =>
      rw [hamount] at hsmall hpositive
      have hbound := Binary64.finite_lt_iff.mp hsmall
      have hpos : 0 < nearestInt (100 * quanta) quantaPerOne :=
        Binary64.pos_of_not_le_zero (Binary64.not_le_of_lt hpositive)
      have hsign : ¬100 * quanta < 0 := by
        intro hneg
        unfold nearestInt at hpos
        rw [if_pos hneg] at hpos
        omega
      obtain ⟨q, rfl⟩ := Int.eq_ofNat_of_zero_le (show 0 ≤ quanta by omega)
      have hsize : (100 * (q : Int)).natAbs = 100 * q := by omega
      unfold nearestInt at hpos
      rw [if_neg hsign, hsize] at hpos
      have hhalf : quantaPerOne < 2 * (100 * q) :=
        Number.lt_of_nearest_pos (Int.natCast_pos.mp hpos)
      exact ⟨q, hgrid, rfl, Int.ofNat_lt.mp hbound, by omega⟩

theorem Keepable.within {e : Entry} (h : e.Keepable) : e.amount.Within amountLimit := by
  obtain ⟨q, hgrid, heq, hsmall, -⟩ := h.quanta
  exact ⟨q, hgrid, heq, by omega⟩

/-- The ledger takes a keepable amount, and keeps at most the bound. -/
theorem Keepable.cash {e : Entry} (h : e.Keepable) :
    ∃ amount, Cash.ofDouble? e.amount = some amount ∧ amount.Below (amountLimit + 1) := by
  obtain ⟨q, hgrid, heq, hsmall, hhalf⟩ := h.quanta
  obtain ⟨hlimit, -⟩ := amountLimit_eq
  rw [Int.natAbs_natCast] at hlimit
  have hatLeast : 0 < (Decimal.shortest q).hundredths := Decimal.one_le_hundredths hgrid.1 hhalf
  have hatMost : (Decimal.shortest q).hundredths ≤ 100 * amountLimit :=
    Decimal.hundredths_le hgrid.1 hlimit.1 hsmall
  have hroom : 100 * amountLimit < Cash.limit := by decide +kernel
  have hq : 0 < q := by omega
  refine ⟨_, heq ▸ Cash.ofDouble?_finite hq rfl hatLeast (by omega), ?_⟩
  show (Decimal.shortest q).hundredths < 100 * (amountLimit + 1)
  omega

end Entry

/-! ## Ledgers and drafts -/

/-- A ledger whose periods are sound, and whose amounts and sums are bounded. -/
structure Ledger.Sound (l : Ledger) : Prop where
  periods : ∀ p ∈ l.periods, p.period.Sound
  amounts : ∀ r ∈ l.rows, r.amount.Below amountLimit
  sums : ∀ user, (Ledger.cashOf (ownRows user l.rows)).Below sumLimit

/-- A draft on which everything but sums is bounded. -/
structure Draft.Sound (d : Draft) : Prop where
  periods : ∀ p ∈ d.ledger.periods, p.period.Sound
  /-- A recorded amount may have been rounded up to the bound itself. -/
  amounts : ∀ r ∈ d.rows, r.amount.Below (amountLimit + 1)

/-- A draft on which sums are bounded, too. -/
structure Draft.Modest (d : Draft) : Prop extends Draft.Sound d where
  sums : ∀ user, (Ledger.cashOf (ownRows user d.rows)).Below sumLimit

theorem Ledger.Sound.modest {l : Ledger} (h : l.Sound) : ({ ledger := l } : Draft).Modest where
  periods := h.periods
  amounts r hr := Cash.below_mono (h.amounts r hr) (Nat.le_succ _)
  sums := h.sums

/-- What a fold ends with that only ever takes over elements is an element, or what it began
with. -/
theorem mem_or_eq_of_foldl {α : Type} {f : Option α → α → Option α}
    (hf : ∀ best a found, f best a = some found → found = a ∨ best = some found) {xs : List α}
    {best : Option α} {found : α} (h : xs.foldl f best = some found) :
    found ∈ xs ∨ best = some found := by
  induction xs generalizing best with
  | nil => exact .inr h
  | cons first rest ih =>
      rcases ih h with hrest | hnext
      · exact .inl (List.mem_cons_of_mem first hrest)
      · rcases hf best first found hnext with rfl | hbest
        · exact .inl List.mem_cons_self
        · exact .inr hbest

/-- The active period of a user is one of the periods. -/
theorem Ledger.exists_of_activePeriod {periods : List UserPeriod} {user : Int} {p : Period}
    (h : activePeriod periods user = some p) : ∃ own ∈ periods, own.period = p := by
  unfold activePeriod at h
  have hmem := mem_or_eq_of_foldl (fun best first found hfound => ?_) h
  · rcases hmem with hmem | hnone
    · obtain ⟨own, hown, hperiod⟩ := List.mem_map.mp hmem
      exact ⟨own, (List.mem_filter.mp hown).1, hperiod⟩
    · cases hnone
  · cases best with
    | none =>
        injection hfound with hfound
        exact .inl hfound.symm
    | some current =>
        dsimp only at hfound
        split at hfound
        · injection hfound with hfound
          exact .inl hfound.symm
        · exact .inr hfound

/-- Amounts that are numbers of moderate size. -/
def Moderate (amounts : List Binary64) : Prop :=
  ∀ x ∈ amounts, x.Within (2 * (amountLimit + 1) + 1)

namespace Promise

/-- What can be relied on with a sound draft: whatever is keepable is recorded, the active period is
sound, and amounts are numbers. -/
def sound : Promise where
  answers
    | .insert _ e => e.Keepable
    | .rollback => False
    | _ => True
  grants
    | .activePeriod _, period => ∀ p : Period, period = some p → p.Sound
    | .expenseAmounts _, amounts => Moderate amounts
    | _, _ => True

/-- What can be relied on with a modest draft as long as nothing is recorded: sums are numbers,
too. -/
def modest : Promise where
  answers q := sound.answers q ∧ ∀ user e, q ≠ .insert user e
  grants
    | .sumExpenses _ _ _, sum => Binary64.Within (2 * sumLimit + 1) sum
    | q, a => sound.grants q a

end Promise

namespace Draft

variable {d : Draft}

/-- A recording of a keepable entry leaves the draft sound. -/
theorem Sound.insert (h : d.Sound) (user : Int) {e : Entry} (hkeep : e.Keepable) :
    (∃ recording, (d.perform (.insert user e)).1 = .ok recording) ∧
      (d.perform (.insert user e)).2.Sound := by
  obtain ⟨amount, hamount, hbelow⟩ := hkeep.cash
  have hanswer : (d.perform (.insert user e)).1 = .ok ⟨d.ledger.nextId, e⟩ := by
    show (d.insert user e).1 = _
    unfold Draft.insert
    rw [hamount]
    rfl
  obtain ⟨-, kept, hkept, hrows, -⟩ := of_insert hanswer
  rw [hamount] at hkept
  injection hkept with hkept
  refine ⟨⟨_, hanswer⟩, ?_, ?_⟩
  · show ∀ p ∈ (d.insert user e).2.ledger.periods, _
    unfold Draft.insert
    rw [hamount]
    exact h.periods
  · rw [hrows]
    intro r hr
    rcases List.mem_append.mp hr with hold | hnew
    · exact h.amounts r hold
    · rw [List.mem_singleton.mp hnew, ← hkept]
      exact hbelow

/-- A draft with fewer rows stays sound, and its sums stay bounded. -/
theorem Sound.of_sublist (h : d.Sound) {e : Draft} (hperiods : e.ledger.periods = d.ledger.periods)
    (hrows : e.rows.Sublist d.rows) : e.Sound :=
  ⟨hperiods ▸ h.periods, fun r hr => h.amounts r (hrows.subset hr)⟩

theorem Modest.of_sublist (h : d.Modest) {e : Draft}
    (hperiods : e.ledger.periods = d.ledger.periods) (hrows : e.rows.Sublist d.rows) : e.Modest :=
  ⟨h.toSound.of_sublist hperiods hrows, fun user =>
    Cash.below_total_of_sublist ((hrows.filter _).map Row.amount) (h.sums user)⟩

/-- No query but a recording or a rollback adds rows or changes periods. -/
theorem sublist_perform {q : Query} (hinsert : ∀ user e, q ≠ .insert user e)
    (hrollback : q ≠ .rollback) :
    (d.perform q).2.ledger.periods = d.ledger.periods ∧ (d.perform q).2.rows.Sublist d.rows := by
  cases q with
  | insert user e => exact absurd rfl (hinsert user e)
  | rollback => exact absurd rfl hrollback
  | delete user id =>
      have hrows : (d.delete user id).2.rows.Sublist d.rows :=
        d.rows_delete user id ▸ List.filter_sublist
      exact ⟨congrArg Ledger.periods (d.ledger_delete user id), hrows⟩
  | _ => exact ⟨rfl, List.Sublist.refl _⟩

/-- What a sound draft answers is as promised. -/
theorem Sound.grants (h : d.Sound) {q : Query} (hq : Promise.sound.answers q) :
    ∃ a, (d.perform q).1 = .ok a ∧ Promise.sound.grants q a := by
  cases q with
  | insert user e =>
      obtain ⟨⟨recording, hanswer⟩, -⟩ := h.insert user hq
      exact ⟨recording, hanswer, trivial⟩
  | rollback => exact hq.elim
  | activePeriod user =>
      refine ⟨_, rfl, fun p hp => ?_⟩
      obtain ⟨own, hown, hperiod⟩ := Ledger.exists_of_activePeriod hp
      exact hperiod ▸ h.periods own hown
  | expenseAmounts user =>
      refine ⟨_, rfl, fun x hx => ?_⟩
      obtain ⟨r, hr, hamount⟩ := List.mem_map.mp hx
      rw [← hamount]
      exact Cash.within_toDouble (h.amounts r (List.mem_filter.mp hr).1) (by decide +kernel)
  | _ => exact ⟨_, rfl, trivial⟩

/-- The expenses of a span are together at most what the user spent at all. -/
theorem Modest.within_sumExpenses (h : d.Modest) (user : Int) (start stop : Date) :
    (Ledger.sumExpenses d.rows user start stop).Within (2 * sumLimit + 1) := by
  refine Cash.within_toDouble (Cash.below_total_of_sublist ?_ (h.sums user)) (by decide +kernel)
  rw [← Ledger.expenses_ownRows]
  exact (List.filter_sublist).map Row.amount

end Draft

/-- Drafts of sound ledgers stay sound, and answer as promised. -/
theorem Promise.keptBy_sound : Promise.sound.KeptBy Draft.Sound := by
  intro d q hd hq
  refine ⟨hd.grants hq, ?_⟩
  by_cases hinsert : ∃ user e, q = .insert user e
  · obtain ⟨user, e, rfl⟩ := hinsert
    exact (hd.insert user hq).2
  · have hrollback : q ≠ .rollback := by
      rintro rfl
      exact hq
    obtain ⟨hperiods, hrows⟩ := Draft.sublist_perform (d := d)
      (fun user e heq => hinsert ⟨user, e, heq⟩) hrollback
    exact hd.of_sublist hperiods hrows

/-- As long as nothing is recorded, sums stay bounded, too. -/
theorem Promise.keptBy_modest : Promise.modest.KeptBy Draft.Modest := by
  intro d q hd hq
  obtain ⟨hanswers, hinsert⟩ := hq
  have hrollback : q ≠ .rollback := by
    rintro rfl
    exact hanswers
  obtain ⟨hperiods, hrows⟩ := Draft.sublist_perform (d := d) hinsert hrollback
  refine ⟨?_, hd.of_sublist hperiods hrows⟩
  obtain ⟨a, hanswer, hgrants⟩ := hd.toSound.grants hanswers
  refine ⟨a, hanswer, ?_⟩
  cases q with
  | sumExpenses user start stop =>
      injection hanswer with hanswer
      exact hanswer ▸ hd.within_sumExpenses user start stop
  | _ => exact hgrants

end BukuKas
