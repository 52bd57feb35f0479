import BukuKas.Proofs.Calendar.Span
import BukuKas.Proofs.Ledger.Grouping

/-!
# The views of the money agree

A span of days is summed up, listed, and grouped by category and by day, each time from the rows
anew.  All of these read the same rows, the expenses of one user in the span, which sorting reorders
and grouping gathers; so one exact sum stands behind them.  A span falls apart at every one of its
days into the rows up to this day and those from the next day on.

## Main results

* `views_span` : the list and the groups of a span share its sum.
* `perm_expenses_split` : a span falls apart at a day.
* `views_agree` : the views of the money agree.
-/

namespace BukuKas.Ledger

open Calendar (Date)

variable {rows others : List Row} {user : Int} {start stop : Date}

/-- The exact sum of the expenses in a span. -/
def spent (rows : List Row) (user : Int) (start stop : Date) : Cash :=
  cashOf (expenses rows user start stop)

/-- The expenses of a user. -/
def ownExpenses (rows : List Row) (user : Int) : List Row :=
  rows.filter fun r => decide (r.user = user ∧ r.kind = .expense)

/-! ## One span -/

theorem expenses_eq_filter (rows : List Row) (user : Int) (start stop : Date) :
    expenses rows user start stop =
      (ownExpenses rows user).filter fun r => decide (start ≤ r.date ∧ r.date ≤ stop) := by
  rw [expenses, ownExpenses, List.filter_filter]
  refine List.filter_congr fun r _ => ?_
  rw [Bool.eq_iff_iff]
  simp [Row.isExpenseOf, Date.within, and_comm]

theorem amounts_eq_map (rows : List Row) (user : Int) :
    amounts rows user = (ownExpenses rows user).map fun r => r.amount.toDouble := by
  have hown : rows.filter (Row.isExpenseOf user) = ownExpenses rows user :=
    List.filter_congr fun r _ => by
      rw [Bool.eq_iff_iff]
      simp [Row.isExpenseOf]
  rw [amounts, hown]

theorem perm_listExpenses (rows : List Row) (user : Int) (start stop : Date) :
    (listExpenses rows user start stop).Perm (expenses rows user start stop) :=
  List.mergeSort_perm _ _

theorem perm_listDay (rows : List Row) (user : Int) (day : Date) :
    (listDay rows user day).Perm (expenses rows user day day) :=
  List.mergeSort_perm _ _

/-- The sums of a span under its keys, exact and rounded one by one: each key of a listed row once,
with the exact sum of its rows, so that all of them make up the sum of the span. -/
structure Sums {κ : Type} [DecidableEq κ] (key : Row → κ) (listed : List Row)
    (shown : List (κ × Number.Binary64)) (sums : List (κ × Cash)) : Prop where
  shown : shown = sums.map fun sum => (sum.1, sum.2.toDouble)
  groups : Groups key listed sums
  total : Cash.total (sums.map Prod.snd) = cashOf listed

/-- Sorted sums of the rows of a span are sums of the rows that are listed for it. -/
theorem sums_mergeSort {κ : Type} [DecidableEq κ] (key : Row → κ)
    (before : κ × Cash → κ × Cash → Bool) :
    let sums := (groupBy key (expenses rows user start stop)).mergeSort before
    Sums key (listExpenses rows user start stop) (sums.map fun sum => (sum.1, sum.2.toDouble))
      sums := by
  have hsorted := List.mergeSort_perm (groupBy key (expenses rows user start stop)) before
  have hlisted := perm_listExpenses rows user start stop
  refine ⟨rfl, (groups_groupBy key _).perm hlisted.symm hsorted.symm, ?_⟩
  rw [Cash.total_perm (hsorted.map Prod.snd), total_groupBy, cashOf_perm hlisted]

/-- The list, the groups and the sum of a span. -/
structure Views (rows : List Row) (user : Int) (start stop : Date) : Prop where
  /-- The expenses of the user that are dated in the span are listed, and no other rows. -/
  listed : (listExpenses rows user start stop).Perm
    ((ownExpenses rows user).filter fun r => decide (start ≤ r.date ∧ r.date ≤ stop))
  sum : sumExpenses rows user start stop = (spent rows user start stop).toDouble
  sumOfList : cashOf (listExpenses rows user start stop) = spent rows user start stop
  byCategory : ∃ sums, Sums Row.category (listExpenses rows user start stop)
    (categoryTotals rows user start stop) sums
  byDay : ∃ sums,
    Sums Row.date (listExpenses rows user start stop) (dailyTotals rows user start stop) sums

theorem views_span (rows : List Row) (user : Int) (start stop : Date) :
    Views rows user start stop where
  listed := expenses_eq_filter rows user start stop ▸ perm_listExpenses rows user start stop
  sum := rfl
  sumOfList := cashOf_perm (perm_listExpenses rows user start stop)
  byCategory := ⟨_, sums_mergeSort Row.category _⟩
  byDay := ⟨_, sums_mergeSort Row.date _⟩

/-! ## Two spans -/

/-- A span falls apart at a day into the rows up to this day and those from the next day on. -/
theorem perm_expenses_split {m next : Date} (hstart : start ≤ m) (hstop : m < stop)
    (hnext : m.addDays? 1 = some next) :
    (expenses rows user start m ++ expenses rows user next stop).Perm
      (expenses rows user start stop) := by
  rw [Date.addDays?_eq_some_iff] at hnext
  rw [Date.le_iff] at hstart
  rw [Date.lt_iff] at hstop
  have hupTo : expenses rows user start m =
      (expenses rows user start stop).filter fun r => decide (r.date ≤ m) := by
    rw [expenses_eq_filter, expenses_eq_filter, List.filter_filter]
    refine List.filter_congr fun r _ => ?_
    rw [Bool.eq_iff_iff]
    simp only [Bool.and_eq_true, decide_eq_true_eq, Date.le_iff]
    omega
  have hfrom : expenses rows user next stop =
      (expenses rows user start stop).filter fun r => !decide (r.date ≤ m) := by
    rw [expenses_eq_filter, expenses_eq_filter, List.filter_filter]
    refine List.filter_congr fun r _ => ?_
    rw [Bool.eq_iff_iff]
    simp only [Bool.and_eq_true, Bool.not_eq_true', decide_eq_true_eq, decide_eq_false_iff_not,
      Date.le_iff]
    omega
  rw [hupTo, hfrom]
  exact List.filter_append_perm _ _

theorem spent_split {m next : Date} (hstart : start ≤ m) (hstop : m < stop)
    (hnext : m.addDays? 1 = some next) :
    spent rows user start stop = spent rows user start m + spent rows user next stop := by
  rw [spent, ← cashOf_perm (perm_expenses_split hstart hstop hnext), cashOf_append]
  rfl

/-- There is a day after each day that is not the last one. -/
theorem exists_nextDay {m : Date} (hstop : m < stop) : ∃ next, m.addDays? 1 = some next := by
  have hlast := stop.number_le_lastNumber
  rw [Date.lt_iff] at hstop
  obtain ⟨next, -, hnumber⟩ := Date.exists_ofNumber? (n := m.number + 1) (by omega) (by omega)
  exact ⟨next, Date.addDays?_eq_some_iff.mpr (by omega)⟩

/-- The views of the money agree.  The list of a span has the expenses of the user that are dated in
it and no other rows, its exact sum is the one that is rounded to the sum of the span, and each
category and each day of a listed row stands once in its grouping, with the exact sum of its rows,
which add up to the same.  The sums of two spans that follow one another are the sum of both, the
list of a day has the rows of the span of this day, and rows of other users and incomes change no
view. -/
theorem views_agree (rows : List Row) (user : Int) :
    (∀ start stop, Views rows user start stop) ∧
    (∀ start stop m, start ≤ m → m < stop → ∃ next, m.addDays? 1 = some next ∧
      spent rows user start stop = spent rows user start m + spent rows user next stop) ∧
    (∀ day, (listDay rows user day).Perm (listExpenses rows user day day) ∧
      cashOf (listDay rows user day) = spent rows user day day) ∧
    ∀ others, ownExpenses others user = ownExpenses rows user →
      amounts others user = amounts rows user ∧
      (∀ day, listDay others user day = listDay rows user day) ∧
      ∀ start stop, sumExpenses others user start stop = sumExpenses rows user start stop ∧
        listExpenses others user start stop = listExpenses rows user start stop ∧
        categoryTotals others user start stop = categoryTotals rows user start stop ∧
        dailyTotals others user start stop = dailyTotals rows user start stop := by
  refine ⟨views_span rows user, ?_, fun day => ⟨?_, ?_⟩, fun others hsame => ?_⟩
  · intro start stop m hstart hstop
    obtain ⟨next, hnext⟩ := exists_nextDay hstop
    exact ⟨next, hnext, spent_split hstart hstop hnext⟩
  · exact (perm_listDay rows user day).trans (perm_listExpenses rows user day day).symm
  · exact cashOf_perm (perm_listDay rows user day)
  · have hexpenses : ∀ start stop,
        expenses others user start stop = expenses rows user start stop :=
      fun start stop => by rw [expenses_eq_filter, hsame, ← expenses_eq_filter]
    refine ⟨?_, fun day => ?_, fun start stop => ?_⟩
    · rw [amounts_eq_map, hsame, ← amounts_eq_map]
    · rw [listDay, hexpenses, listDay]
    · simp only [sumExpenses, listExpenses, categoryTotals, dailyTotals, hexpenses, and_self]

/-- From the day before a leap day to the day after it, the leap day divides the expenses into two
parts, and the income and the row of another user on it change nothing. -/
theorem views_agree_of_leap_day :
    let before : Date := ⟨2028, 2, 28, by decide⟩
    let leap : Date := ⟨2028, 2, 29, by decide⟩
    let after : Date := ⟨2028, 3, 1, by decide⟩
    let kopi : Row := ⟨1, 1, "Kopi", .hundredths 2500000, "Makanan", after, .expense, 1⟩
    let gaji : Row := ⟨2, 1, "Gaji", .hundredths 900000000, "Makanan", leap, .income, 2⟩
    let bensin : Row := ⟨3, 2, "Bensin", .hundredths 5000000, "Transport", leap, .expense, 3⟩
    let sate : Row := ⟨4, 1, "Sate", .hundredths 3000050, "Makanan", leap, .expense, 4⟩
    let bus : Row := ⟨5, 1, "Bus", .hundredths 1000000, "Transport", before, .expense, 5⟩
    let rows := [kopi, gaji, bensin, sate, bus]
    spent rows 1 before after = .hundredths 6500050 ∧
      spent rows 1 before leap = .hundredths 4000050 ∧
      spent rows 1 after after = .hundredths 2500000 ∧
      spent rows 1 before after = spent rows 1 before leap + spent rows 1 after after ∧
      categoryTotals [kopi, sate, bus] 1 before after = categoryTotals rows 1 before after := by
  intro before leap after kopi gaji bensin sate bus rows
  obtain ⟨-, hsplit, -, hothers⟩ := views_agree rows 1
  obtain ⟨next, hnext, hsum⟩ := hsplit before after leap (by decide) (by decide)
  have hafter : next = after := Option.some.inj (hnext.symm.trans (by decide +kernel))
  obtain ⟨-, -, hspan⟩ := hothers [kopi, sate, bus] (by decide +kernel)
  exact ⟨by decide +kernel, by decide +kernel, by decide +kernel, hafter ▸ hsum,
    (hspan before after).2.2.1⟩

end BukuKas.Ledger
