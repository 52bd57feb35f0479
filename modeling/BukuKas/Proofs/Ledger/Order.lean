import BukuKas.Proofs.Ledger.Agreement
import BukuKas.Proofs.Ledger.Cash

/-!
# Sums in their order

The sums of the days of a span come by date, and those of its categories with the largest first.
The days with a row are the dates of the span that have one, in the same order; and since rounding
keeps the order of amounts, the category that comes first is the one with the largest sum, rounded
or not.

## Main results

* `dailyTotals_eq` : the sums of the days, day by day.
* `perm_flatMap_days` : the rows of a span, day by day.
* `categoryTotals_cases` : the category that comes first.
-/

namespace BukuKas

open Calendar (Date)
open Number (Binary64)

namespace Ledger

variable {rows : List Row} {user : Int} {start stop : Date}

/-! ## Day by day -/

/-- The rows of a day of a span are those of the span with this date. -/
theorem expenses_day {d : Date} (hstart : start ≤ d) (hstop : d ≤ stop) :
    expenses rows user d d = (expenses rows user start stop).filter fun r =>
      decide (r.date = d) := by
  rw [expenses_eq_filter, expenses_eq_filter, List.filter_filter]
  refine List.filter_congr fun r _ => ?_
  rw [Bool.eq_iff_iff]
  simp only [Bool.and_eq_true, decide_eq_true_eq]
  constructor
  · rintro ⟨hfrom, hto⟩
    obtain rfl := Date.le_antisymm hto hfrom
    exact ⟨rfl, hstart, hstop⟩
  · rintro ⟨rfl, -⟩
    exact ⟨Date.le_refl _, Date.le_refl _⟩

/-- Each row of a span is met once when its days are gone through. -/
theorem perm_flatMap_days (rows : List Row) (user : Int) (start stop : Date) :
    ((Date.span start stop).flatMap fun d => expenses rows user d d).Perm
      (expenses rows user start stop) := by
  have hparts :=
    perm_flatMap_filter Row.date (expenses rows user start stop) (Date.nodup_span start stop)
  have hall :
      ((expenses rows user start stop).filter fun r => decide (r.date ∈ Date.span start stop)) =
      expenses rows user start stop :=
    List.filter_eq_self.mpr fun r hr =>
      decide_eq_true (Date.mem_span_iff.mpr (mem_expenses_iff.mp hr).2.2)
  rw [hall] at hparts
  rwa [List.flatMap_congr fun d hd =>
    expenses_day (Date.mem_span_iff.mp hd).1 (Date.mem_span_iff.mp hd).2]

/-- The dates of the rows of a span are its days that have a row. -/
theorem exists_expense_iff {d : Date} : (∃ r ∈ expenses rows user start stop, r.date = d) ↔
    (start ≤ d ∧ d ≤ stop) ∧ ∃ r, r ∈ expenses rows user d d := by
  constructor
  · rintro ⟨r, hr, rfl⟩
    have hspan := (mem_expenses_iff.mp hr).2.2
    refine ⟨hspan, r, ?_⟩
    rw [expenses_day hspan.1 hspan.2]
    exact List.mem_filter.mpr ⟨hr, decide_eq_true rfl⟩
  · rintro ⟨hspan, r, hr⟩
    rw [expenses_day hspan.1 hspan.2, List.mem_filter] at hr
    exact ⟨r, hr.1, of_decide_eq_true hr.2⟩

theorem sorted_days (sums : List (Date × Cash)) :
    ((sums.mergeSort fun a b => decide (a.1 ≤ b.1)).map Prod.fst).Pairwise (· ≤ ·) := by
  have hpairs := @List.pairwise_mergeSort (Date × Cash) (fun a b => decide (a.1 ≤ b.1))
    (fun a b c hab hbc => by
      simp only [decide_eq_true_eq, Date.le_iff] at hab hbc ⊢
      exact Nat.le_trans hab hbc)
    (fun a b => by
      simp only [Bool.or_eq_true, decide_eq_true_eq, Date.le_iff]
      exact Nat.le_total _ _)
    sums
  exact List.pairwise_map.mpr (hpairs.imp of_decide_eq_true)

/-- The sums of the days of a span are those of its dates that have a row. -/
theorem dailyTotals_eq (rows : List Row) (user : Int) (start stop : Date) :
    dailyTotals rows user start stop =
      ((Date.span start stop).filter fun d => !(expenses rows user d d).isEmpty).map
        fun d => (d, (spent rows user d d).toDouble) := by
  let sums := (groupBy Row.date (expenses rows user start stop)).mergeSort fun a b =>
    decide (a.1 ≤ b.1)
  have hgroups : Groups Row.date (expenses rows user start stop) sums :=
    (groups_groupBy Row.date _).perm (List.Perm.refl _) (List.mergeSort_perm _ _).symm
  -- both sides have the same dates, and have them in order
  have hdays : sums.map Prod.fst =
      (Date.span start stop).filter fun d => !(expenses rows user d d).isEmpty := by
    refine List.Perm.eq_of_pairwise (fun _ _ _ _ => Date.le_antisymm) (sorted_days _)
      (((Date.pairwise_span start stop).filter _).imp Date.le_of_lt)
      ((List.perm_ext_iff_of_nodup hgroups.nodup ((Date.nodup_span start stop).filter _)).mpr
        fun d => ?_)
    rw [hgroups.keys, exists_expense_iff, List.mem_filter, Date.mem_span_iff, Bool.not_eq_true',
      List.isEmpty_eq_false_iff_exists_mem]
  calc dailyTotals rows user start stop = sums.map fun sum => (sum.1, sum.2.toDouble) := rfl
    _ = (sums.map Prod.fst).map fun d => (d, (spent rows user d d).toDouble) := by
        rw [List.map_map]
        refine List.map_congr_left fun sum hsum => ?_
        have hday : sum.1 ∈ sums.map Prod.fst := List.mem_map_of_mem hsum
        rw [hdays, List.mem_filter, Date.mem_span_iff] at hday
        rw [hgroups.exact sum.1 sum.2 hsum, ← expenses_day hday.1.1 hday.1.2]
        rfl
    _ = _ := by rw [hdays]

/-! ## The largest category -/

/-- The exact sum of the expenses of a category in a span. -/
def spentUnder (rows : List Row) (user : Int) (start stop : Date) (category : String) : Cash :=
  cashOf ((expenses rows user start stop).filter fun r => decide (r.category = category))

theorem sorted_sums (sums : List (String × Cash)) :
    (sums.mergeSort fun a b => b.2.le a.2).Pairwise fun a b => b.2.le a.2 = true :=
  @List.pairwise_mergeSort (String × Cash) (fun a b => b.2.le a.2)
    (fun _ _ _ hab hbc => Cash.le_trans hbc hab) (fun a b => Cash.le_total b.2 a.2) sums

/-- When no sum is larger than the first one, no key has more. -/
theorem Groups.le_first {κ : Type} [DecidableEq κ] {key : Row → κ} {listed : List Row}
    {k : κ} {most : Cash} {rest : List (κ × Cash)} (h : Groups key listed ((k, most) :: rest))
    (hrest : ∀ sum ∈ rest, sum.2.le most = true) (other : κ) :
    (cashOf (listed.filter fun r => decide (key r = other))).le most = true := by
  by_cases hother : other ∈ ((k, most) :: rest).map Prod.fst
  · obtain ⟨⟨_, sum⟩, hmem, rfl⟩ := List.mem_map.mp hother
    rw [← h.exact _ sum hmem]
    rcases List.mem_cons.mp hmem with hhead | htail
    · obtain ⟨-, rfl⟩ := Prod.mk.inj hhead
      exact Cash.le_refl _
    · exact hrest _ htail
  · have hnone : listed.filter (fun r => decide (key r = other)) = [] :=
      List.filter_eq_nil_iff.mpr fun r hr hsame =>
        hother ((h.keys other).mpr ⟨r, hr, of_decide_eq_true hsame⟩)
    rw [hnone, cashOf_nil]
    exact Cash.zero_le _

/-- The category of a row of a span on which most was spent. -/
structure MostSpent (rows : List Row) (user : Int) (start stop : Date) (category : String) :
    Prop where
  occurs : ∃ r ∈ expenses rows user start stop, r.category = category
  largest : ∀ other,
    (spentUnder rows user start stop other).le (spentUnder rows user start stop category) = true

/-- The first category is the one on which most was spent, and no shown sum is larger than its
own. -/
theorem categoryTotals_cases (rows : List Row) (user : Int) (start stop : Date) :
    (expenses rows user start stop = [] ∧ categoryTotals rows user start stop = []) ∨
      ∃ category rest, MostSpent rows user start stop category ∧
        categoryTotals rows user start stop =
          (category, (spentUnder rows user start stop category).toDouble) :: rest ∧
        ∀ sum ∈ rest, sum.2 ≤ (spentUnder rows user start stop category).toDouble := by
  let sums := (groupBy Row.category (expenses rows user start stop)).mergeSort fun a b => b.2.le a.2
  have hgroups : Groups Row.category (expenses rows user start stop) sums :=
    (groups_groupBy Row.category _).perm (List.Perm.refl _) (List.mergeSort_perm _ _).symm
  have hshown : categoryTotals rows user start stop = sums.map fun sum => (sum.1, sum.2.toDouble) :=
    rfl
  have hsorted : sums.Pairwise fun a b => b.2.le a.2 = true := sorted_sums _
  rw [hshown]
  generalize sums = sums at hgroups hsorted
  cases sums with
  | nil =>
      refine .inl ⟨List.eq_nil_iff_forall_not_mem.mpr fun r hr => ?_, rfl⟩
      exact List.not_mem_nil ((hgroups.keys r.category).mpr ⟨r, hr, rfl⟩)
  | cons first rest =>
      obtain ⟨category, sum⟩ := first
      obtain rfl : sum = spentUnder rows user start stop category :=
        hgroups.exact category sum List.mem_cons_self
      obtain ⟨hfirst, -⟩ := List.pairwise_cons.mp hsorted
      refine .inr ⟨category, rest.map fun sum => (sum.1, sum.2.toDouble), ⟨?_, ?_⟩, rfl, ?_⟩
      · exact (hgroups.keys category).mp List.mem_cons_self
      · exact hgroups.le_first hfirst
      · intro shown hmem
        obtain ⟨sum, hsum, rfl⟩ := List.mem_map.mp hmem
        exact Cash.toDouble_le (hfirst sum hsum)

end Ledger

end BukuKas
