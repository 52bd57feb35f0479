import BukuKas.Proofs.Ledger.WellFormed
import BukuKas.Proofs.Message.Spoken
import Mathlib.Algebra.Ring.Int.Defs

/-!
# What recording comes to

When no call is made to fail, an entry that the ledger keeps and that has a finite amount is
recorded.  Whether the recording is answered then depends on the other expenses of the user alone:
the reply tells of all points, and these can be told exactly when all amounts are finite.  A new row
changes nothing in this.

## Main results

* `concludes_add`, `concludes_addMany` : what the answers to recordings come to.
* `Standing.scored_recordAll_iff` : recordings leave open what was open before.
-/

namespace BukuKas

open Calendar (Date)
open Number (Binary64)

/-- The points that an entry earns. -/
def Entry.gain (e : Entry) : Int := (Score.points e.amount).toOption.getD 0

theorem Entry.points_eq_gain {e : Entry} (h : e.amount.isFinite = true) :
    Score.points e.amount = .ok e.gain := by
  obtain ⟨p, hp⟩ := Score.exists_points_iff.mpr h
  rw [gain, hp]
  rfl

/-! ## Standings -/

namespace Standing

variable {st next last : Standing} {e : Entry} {es : List Entry}

/-- All expenses of the user have finite amounts. -/
def Scored (st : Standing) : Prop :=
  ∀ amount ∈ Ledger.amounts st.rows st.chat.user, amount.isFinite = true

/-- A recorded expense stands last among the amounts of the user, as the ledger keeps it. -/
theorem amounts_record (h : st.record e = some next) : ∃ amount,
    Cash.ofDouble? e.amount = some amount ∧ Ledger.amounts next.rows st.chat.user =
      Ledger.amounts st.rows st.chat.user ++ [amount.toDouble] := by
  obtain ⟨amount, hamount, rfl⟩ := Option.map_eq_some_iff.mp h
  refine ⟨amount, hamount, ?_⟩
  simp [Ledger.amounts, Row.isExpenseOf, Row.ofEntry]

theorem user_record (h : st.record e = some next) : next.chat.user = st.chat.user := by
  obtain ⟨amount, rfl⟩ := of_record h
  rfl

/-- A recorded amount changes nothing in whether all amounts are finite. -/
theorem scored_record_iff (h : st.record e = some next) : next.Scored ↔ st.Scored := by
  obtain ⟨amount, hamount, hamounts⟩ := amounts_record h
  have hkept : amount.toDouble.isFinite = true := (Cash.proper_of_ofDouble? hamount).2
  unfold Scored
  rw [user_record h, hamounts, List.forall_mem_append, List.forall_mem_singleton]
  exact and_iff_left hkept

theorem scored_recordAll_iff (h : st.recordAll es = some last) : last.Scored ↔ st.Scored := by
  refine recordAll_induction (P := fun other => other.Scored ↔ st.Scored) ?_ h Iff.rfl
  intro first second e _ hrecord hfirst
  exact (scored_record_iff hrecord).trans hfirst

theorem next_record (h : st.record e = some next) : next.next = st.next + 1 := by
  obtain ⟨amount, rfl⟩ := of_record h
  rfl

theorem next_recordAll (h : st.recordAll es = some last) : last.next = st.next + es.length := by
  induction es generalizing st with
  | nil =>
      obtain rfl := Option.some.inj h
      exact (Int.add_zero _).symm
  | cons e es ih =>
      obtain ⟨first, hfirst, hrest⟩ := Option.bind_eq_some_iff.mp h
      rw [ih hrest, next_record hfirst, List.length_cons]
      omega

theorem exists_recordAll (h : ∀ e ∈ es, ∃ amount, Cash.ofDouble? e.amount = some amount)
    (st : Standing) : ∃ last, st.recordAll es = some last := by
  induction es generalizing st with
  | nil => exact ⟨st, rfl⟩
  | cons e es ih =>
      obtain ⟨amount, hamount⟩ := h e List.mem_cons_self
      have hrecord : st.record e = some _ := Option.map_eq_some_iff.mpr ⟨amount, hamount, rfl⟩
      obtain ⟨last, hlast⟩ := ih (fun other hother => h other (List.mem_cons_of_mem e hother)) _
      exact ⟨last, Option.bind_eq_some_iff.mpr ⟨_, hrecord, hlast⟩⟩

end Standing

/-! ## Answers -/

namespace Reply

variable {roster : Roster Chat} {phone : String} {st next last : Standing} {o : Occasion} {d : Desk}
variable {e : Entry} {es : List Entry}

/-- A recording leaves a desk that shows a standing.  It ends with its reply if the points of all
expenses can be told, and with a fault otherwise. -/
structure Concludes (roster : Roster Chat) (phone : String) (st : Standing)
    (finish : String → List String → Reply) (earned : Int) (result : Except Fault Reply × Desk) :
    Prop where
  shows : result.2.Shows roster phone st
  told : st.Scored → ∃ points warning,
    result.1 = .ok (finish (experienceText earned points) warning)
  untold : ¬st.Scored → ∃ fault, result.1 = .error fault

theorem run_experienceLine (user earned : Int) (d : Desk) :
    ∃ after, (experienceLine user earned).run .none phone d =
      ((Score.totalPoints (Ledger.amounts d.draft.rows user)).map (experienceText earned),
        after) := by
  have hquery : (Work.query (.expenseAmounts user)).run .none phone d =
      (.ok (Ledger.amounts d.draft.rows user), (d.ask .none (.expenseAmounts user)).2) := rfl
  refine ⟨(d.ask .none (.expenseAmounts user)).2, ?_⟩
  unfold experienceLine
  rw [Work.run_bind_of_ok hquery, Work.run_bind_eq, Work.run_ofExcept]
  cases Score.totalPoints (Ledger.amounts d.draft.rows user) <;> rfl

/-- The warning can always be worked out. -/
theorem run_alertLines (threshold : Binary64) (chat : Chat) (d : Desk) :
    ∃ warning after, (alertLines threshold chat).run .none phone d = (.ok warning, after) := by
  have hstatus : ∃ status after, (budgetStatus chat.user).run .none phone d =
      (.ok status, after) := by
    have hquery : (Work.query (.activePeriod chat.user)).run .none phone d =
        (.ok (Ledger.activePeriod d.draft.ledger.periods chat.user),
          (d.ask .none (.activePeriod chat.user)).2) := rfl
    unfold budgetStatus
    rw [Work.run_bind_of_ok hquery]
    cases Ledger.activePeriod d.draft.ledger.periods chat.user with
    | none => exact ⟨_, _, rfl⟩
    | some period => exact ⟨_, _, rfl⟩
  unfold alertLines
  split
  · obtain ⟨status, after, hstatus⟩ := hstatus
    rw [Work.run_bind_of_ok hstatus]
    split
    · exact ⟨_, _, rfl⟩
    · exact ⟨_, _, rfl⟩
  · exact ⟨_, _, rfl⟩

/-- The end of a recording tells of the points, and warns. -/
theorem concludes_ending (hd : d.Shows roster phone st) (finish : String → List String → Reply)
    (earned : Int) : Concludes roster phone st finish earned
      ((do
        let experience ← experienceLine st.chat.user earned
        let warning ← alertLines o.threshold st.chat
        return finish experience warning : Work Reply).run .none phone d) := by
  obtain ⟨mid, hexperience⟩ := @run_experienceLine phone st.chat.user earned d
  have hmid := hd.of_sums (keeps_experienceLine st.chat.user earned) hexperience
  rw [hd.rows] at hexperience
  rw [Work.run_bind_eq, hexperience]
  have hscored : st.Scored ↔
      ∃ points, Score.totalPoints (Ledger.amounts st.rows st.chat.user) = .ok points :=
    Score.exists_totalPoints_iff.symm
  cases htotal : Score.totalPoints (Ledger.amounts st.rows st.chat.user) with
  | error fault =>
      rw [htotal] at hscored
      exact ⟨hmid, fun h => (nomatch hscored.mp h), fun _ => ⟨fault, rfl⟩⟩
  | ok points =>
      rw [htotal] at hscored
      obtain ⟨warning, after, hwarning⟩ := @run_alertLines phone o.threshold st.chat mid
      have hafter := hmid.of_sums (keeps_alertLines o.threshold st.chat) hwarning
      dsimp only [Except.map]
      rw [Work.run_bind_of_ok hwarning]
      exact ⟨hafter, fun _ => ⟨points, warning, rfl⟩, fun h => absurd (hscored.mpr ⟨points, rfl⟩) h⟩

/-- An entry that the ledger keeps is recorded, and the rest goes on with the chat after it. -/
theorem run_record {α : Type} (hd : d.Shows roster phone st) (hrecord : st.record e = some next)
    (rest : Chat → Work α) : ∃ mid, mid.Shows roster phone next ∧
      (do
        let recording ← Work.query (.insert st.chat.user e)
        Work.put { st.chat with last := some recording.id }
        rest { st.chat with last := some recording.id } : Work α).run .none phone d =
        (rest next.chat).run .none phone mid := by
  obtain ⟨amount, hamount, rfl⟩ := Option.map_eq_some_iff.mp hrecord
  have hinsert : (Work.query (.insert st.chat.user e)).run .none phone d =
      (.ok ⟨st.next, e⟩, (d.ask .none (.insert st.chat.user e)).2) := by
    rw [Work.run_query]
    refine Prod.ext ?_ rfl
    show (d.draft.insert st.chat.user e).1 = _
    unfold Draft.insert
    rw [hamount, hd.next]
    rfl
  obtain ⟨-, kept, hkept, hshows⟩ := hd.insert hinsert
  obtain rfl := Option.some.inj (hamount.symm.trans hkept)
  generalize (d.ask .none (.insert st.chat.user e)).2 = mid at hinsert hshows
  refine ⟨mid.save phone { st.chat with last := some st.next }, hshows.save _, ?_⟩
  rw [Work.run_bind_of_ok hinsert]
  exact Work.run_bind_of_ok (Work.run_put _ mid)

/-- The answer to one expense. -/
theorem concludes_add (hd : d.Shows roster phone st) (hrecord : st.record e = some next)
    (hfinite : e.amount.isFinite = true) :
    Concludes roster phone next (recorded e) e.gain ((add o st.chat e).run .none phone d) := by
  obtain ⟨mid, hmid, hrun⟩ := run_record hd hrecord fun chat => do
    let earned ← Work.ofExcept (Score.points e.amount)
    let experience ← experienceLine chat.user earned
    let warning ← alertLines o.threshold chat
    return recorded e experience warning
  have hadd : (add o st.chat e).run .none phone d = _ := hrun
  rw [hadd, Entry.points_eq_gain hfinite]
  exact concludes_ending hmid (recorded e) e.gain

theorem run_addAll (hd : d.Shows roster phone st) (h : st.recordAll es = some last)
    (hfinite : ∀ e ∈ es, e.amount.isFinite = true) (earned : Int) :
    ∃ after, after.Shows roster phone last ∧ (addAll st.chat earned es).run .none phone d =
      (.ok (last.chat, earned + (es.map Entry.gain).sum), after) := by
  induction es generalizing st d earned with
  | nil =>
      obtain rfl := Option.some.inj h
      exact ⟨d, hd, by simp [addAll, Work.run]⟩
  | cons e es ih =>
      obtain ⟨first, hfirst, hrest⟩ := Option.bind_eq_some_iff.mp h
      obtain ⟨hfinite, hothers⟩ := List.forall_mem_cons.mp hfinite
      obtain ⟨mid, hmid, hrun⟩ := run_record hd hfirst fun chat => do
        let points ← Work.ofExcept (Score.points e.amount)
        addAll chat (earned + points) es
      obtain ⟨after, hafter, hall⟩ := ih hmid hrest hothers (earned + e.gain)
      refine ⟨after, hafter, ?_⟩
      have hadd : (addAll st.chat earned (e :: es)).run .none phone d = _ := hrun
      rw [hadd, Entry.points_eq_gain hfinite, List.map_cons, List.sum_cons, ← Int.add_assoc]
      exact hall

/-- The answer to a list of expenses. -/
theorem concludes_addMany (hd : d.Shows roster phone st) (h : st.recordAll es = some last)
    (hfinite : ∀ e ∈ es, e.amount.isFinite = true) :
    Concludes roster phone last (recordedAll es) (es.map Entry.gain).sum
      ((addMany o st.chat es).run .none phone d) := by
  obtain ⟨mid, hmid, hrun⟩ := run_addAll hd h hfinite 0
  rw [Int.zero_add] at hrun
  unfold addMany
  rw [Work.run_bind_of_ok hrun]
  exact concludes_ending hmid (recordedAll es) (es.map Entry.gain).sum

end Reply

end BukuKas
