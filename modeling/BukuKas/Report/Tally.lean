import BukuKas.Intent

/-!
# Sums per category

Amounts added up under the names of their categories, the names in the order in which they first
come, and the ranking of such sums, the largest first.

## Main results

* `names_add` : adding an amount adds its name at most.
* `rank_perm` : the ranking leaves nothing out.
-/

namespace BukuKas.Report

open Number (Binary64)

/-- Sums under names, in the order in which the names came. -/
abbrev Tally := List (String × Binary64)

namespace Tally

/-- Adds an amount to the sum of a name, at the end when the name is new. -/
def add (name : String) (amount : Binary64) : Tally → Tally
  | [] => [(name, 0 + amount)]
  | (other, sum) :: rest =>
    if other = name then (other, sum + amount) :: rest else (other, sum) :: add name amount rest

/-- The sums of entries per category. -/
def ofEntries (entries : List Entry) : Tally :=
  entries.foldl (fun tally e => add e.category e.amount tally) []

/-- The sum of all sums. -/
def total (t : Tally) : Binary64 :=
  Binary64.sum (t.map Prod.snd)

theorem names_add (name : String) (amount : Binary64) (t : Tally) :
    (add name amount t).map Prod.fst =
      if name ∈ t.map Prod.fst then t.map Prod.fst else t.map Prod.fst ++ [name] := by
  induction t with
  | nil => simp [add]
  | cons head rest ih =>
    obtain ⟨other, sum⟩ := head
    by_cases h : other = name
    · simp [add, h]
    · simp only [add, h, if_false, List.map_cons, ih, List.mem_cons]
      by_cases hm : name ∈ rest.map Prod.fst
      · simp [hm]
      · simp [hm, Ne.symm h]

/-- The sums, the largest first, equal ones in their order. -/
def rank (t : Tally) : Tally :=
  t.mergeSort fun a b => !decide (a.2 < b.2)

theorem rank_perm (t : Tally) : (rank t).Perm t :=
  List.mergeSort_perm t _

end Tally

end BukuKas.Report
