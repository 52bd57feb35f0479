import BukuKas.Proofs.Number.Order
import BukuKas.Report.Tally
import Mathlib.Data.List.Induction
import Mathlib.Data.List.Nodup

/-!
# Sums per category in their ranking

The tally is filled entry by entry, a new name going to its end, and is then sorted.  What this
comes to is said without either: the categories in the order of their first entries, each with the
sum of its own amounts, and from one row of the ranking to every later one a larger sum, or an equal
one and an earlier first entry.

## Main results

* `Tally.ofEntries_eq` : what the tally is filled with.
* `pairwise_mergeSort` : sorting keeps what is equal in its order.
* `Tally.ranks_ofEntries` : what the ranking is.
-/

namespace BukuKas.Report

open Number (Binary64)

variable {entries : List Entry} {e : Entry}

/-- The categories of entries, in the order in which they first come. -/
def categoriesOf (entries : List Entry) : List String :=
  (entries.map Entry.category).eraseDups

/-- The amounts of a category, added in the order of the entries. -/
def spentOn (entries : List Entry) (name : String) : Binary64 :=
  Binary64.sum ((entries.filter fun e => e.category = name).map Entry.amount)

/-- How many entries come before the first one of a category. -/
def firstPlace (entries : List Entry) (name : String) : Nat :=
  (entries.map Entry.category).idxOf name

/-! ## What the tally is filled with -/

theorem categoriesOf_append (entries : List Entry) (e : Entry) :
    categoriesOf (entries ++ [e]) =
      if e.category ∈ categoriesOf entries then categoriesOf entries
      else categoriesOf entries ++ [e.category] := by
  unfold categoriesOf
  rw [List.map_append, List.eraseDups_append]
  simp only [List.mem_eraseDups, List.map_singleton, List.removeAll]
  split
  · rename_i h
    rw [List.filter_cons_of_neg (by simpa using h), List.filter_nil, List.eraseDups_nil,
      List.append_nil]
  · rename_i h
    rw [List.filter_cons_of_pos (by simpa using h), List.filter_nil]
    rfl

theorem mem_categoriesOf {name : String} :
    name ∈ categoriesOf entries ↔ ∃ e ∈ entries, e.category = name := by
  rw [categoriesOf, List.mem_eraseDups, List.mem_map]

theorem firstPlace_append {name : String} (h : name ∈ categoriesOf entries) (e : Entry) :
    firstPlace (entries ++ [e]) name = firstPlace entries name := by
  rw [firstPlace, List.map_append, List.idxOf_append, if_pos (List.mem_eraseDups.mp h), firstPlace]

/-- The first entries of the categories come in the order of the categories. -/
theorem pairwise_categoriesOf (entries : List Entry) :
    (categoriesOf entries).Pairwise fun a b => firstPlace entries a < firstPlace entries b := by
  induction entries using List.reverseRecOn with
  | nil => exact List.Pairwise.nil
  | append_singleton entries e ih =>
      have hold : (categoriesOf entries).Pairwise fun a b =>
          firstPlace (entries ++ [e]) a < firstPlace (entries ++ [e]) b :=
        ih.imp_of_mem fun ha hb hlt => by rwa [firstPlace_append ha, firstPlace_append hb]
      rw [categoriesOf_append]
      split
      · exact hold
      · rename_i hnew
        refine List.pairwise_append.mpr ⟨hold, List.pairwise_singleton _ _, fun a ha b hb => ?_⟩
        obtain rfl := List.mem_singleton.mp hb
        have hlast : firstPlace (entries ++ [e]) e.category = entries.length := by
          rw [firstPlace, List.map_append, List.idxOf_append,
            if_neg (mt List.mem_eraseDups.mpr hnew)]
          simp
        rw [hlast, firstPlace_append ha, ← List.length_map Entry.category]
        exact List.idxOf_lt_length_iff.mpr (List.mem_eraseDups.mp ha)

theorem nodup_categoriesOf (entries : List Entry) : (categoriesOf entries).Nodup :=
  (pairwise_categoriesOf entries).imp fun {a b} hlt (heq : a = b) => by
    subst heq
    exact Nat.lt_irrefl _ hlt

theorem spentOn_append (entries : List Entry) (e : Entry) (name : String) :
    spentOn (entries ++ [e]) name =
      if e.category = name then spentOn entries name + e.amount else spentOn entries name := by
  unfold spentOn
  rw [List.filter_append, List.map_append]
  split
  · rename_i h
    rw [List.filter_cons_of_pos (by simpa using h), List.filter_nil, List.map_singleton,
      Binary64.sum_append_singleton]
  · rename_i h
    rw [List.filter_cons_of_neg (by simpa using h), List.filter_nil, List.map_nil, List.append_nil]

theorem spentOn_of_not_mem {name : String} (h : name ∉ categoriesOf entries) :
    spentOn entries name = 0 := by
  have hnone : entries.filter (fun e => decide (e.category = name)) = [] :=
    List.filter_eq_nil_iff.mpr fun e he heq =>
      h (mem_categoriesOf.mpr ⟨e, he, of_decide_eq_true heq⟩)
  rw [spentOn, hnone]
  rfl

namespace Tally

/-- A name that is there gets the amount, one that is not is appended with it. -/
theorem add_map {names : List String} (hnames : names.Nodup) (f : String → Binary64) (name : String)
    (amount : Binary64) :
    add name amount (names.map fun n => (n, f n)) =
      if name ∈ names then names.map fun n => (n, if name = n then f n + amount else f n)
      else (names.map fun n => (n, f n)) ++ [(name, 0 + amount)] := by
  induction names with
  | nil => rfl
  | cons other names ih =>
      obtain ⟨hother, hnames⟩ := List.nodup_cons.mp hnames
      rw [List.map_cons, add]
      by_cases h : other = name
      · subst h
        have hrest : names.map (fun n => (n, if other = n then f n + amount else f n)) =
            names.map fun n => (n, f n) :=
          List.map_congr_left fun n hn => by rw [if_neg fun heq : other = n => hother (heq ▸ hn)]
        rw [if_pos rfl, if_pos List.mem_cons_self, List.map_cons, if_pos rfl, hrest]
      · have hmem : name ∈ other :: names ↔ name ∈ names := by simp [Ne.symm h]
        rw [if_neg h, ih hnames, List.map_cons, if_neg (Ne.symm h)]
        simp only [hmem]
        split <;> rfl

/-- The tally has the categories in the order of their first entries, each with the sum of its
amounts. -/
theorem ofEntries_eq (entries : List Entry) :
    ofEntries entries = (categoriesOf entries).map fun name => (name, spentOn entries name) := by
  induction entries using List.reverseRecOn with
  | nil => rfl
  | append_singleton entries e ih =>
      have hstep : ofEntries (entries ++ [e]) = add e.category e.amount (ofEntries entries) := by
        rw [ofEntries, List.foldl_append]
        rfl
      rw [hstep, ih, add_map (nodup_categoriesOf entries), categoriesOf_append]
      split
      · exact List.map_congr_left fun name _ => by rw [spentOn_append]
      · rename_i hnew
        have hold : (categoriesOf entries).map (fun name => (name, spentOn (entries ++ [e]) name)) =
            (categoriesOf entries).map fun name => (name, spentOn entries name) :=
          List.map_congr_left fun name hname => by
            rw [spentOn_append, if_neg fun heq : e.category = name => hnew (heq ▸ hname)]
        rw [List.map_append, hold, List.map_singleton, spentOn_append, if_pos rfl,
          spentOn_of_not_mem hnew]

theorem total_ofEntries (entries : List Entry) :
    (ofEntries entries).total = Binary64.sum ((categoriesOf entries).map (spentOn entries)) := by
  rw [total, ofEntries_eq, List.map_map]
  rfl

theorem isEmpty_ofEntries (entries : List Entry) :
    (ofEntries entries).isEmpty = entries.isEmpty := by
  rw [ofEntries_eq, categoriesOf]
  cases entries with
  | nil => rfl
  | cons e entries =>
      rw [List.map_cons, List.eraseDups_cons]
      rfl

end Tally

/-! ## The ranking -/

/-- Sorting puts a list in order, and keeps what is equal in its order. -/
theorem pairwise_mergeSort {α : Type} (le : α → α → Bool) {R : α → α → Prop} {xs : List α}
    (trans : ∀ a b c, le a b = true → le b c = true → le a c = true)
    (total : ∀ a b, (le a b || le b a) = true) (h : xs.Pairwise R) :
    (xs.mergeSort le).Pairwise fun a b => le a b = true ∧ (le b a = true → R a b) := by
  let placed := xs.zipIdx.mergeSort (List.zipIdxLE le)
  have hplaced : placed.map Prod.fst = xs.mergeSort le := List.mergeSort_zipIdx
  have hperm : placed.Perm xs.zipIdx := List.mergeSort_perm _ _
  have hsorted :=
    List.pairwise_mergeSort (List.zipIdxLE_trans trans) (List.zipIdxLE_total total) xs.zipIdx
  have hplaces : (placed.map Prod.snd).Nodup := by
    rw [(hperm.map Prod.snd).nodup_iff, List.zipIdx_map_snd]
    exact List.nodup_range'
  rw [← hplaced, List.pairwise_map]
  refine (hsorted.and (List.pairwise_map.mp hplaces)).imp_of_mem fun {p q} hp hq hpq => ?_
  obtain ⟨hle, hne⟩ := hpq
  have hpx := List.mem_zipIdx_iff_getElem?.mp (hperm.mem_iff.mp hp)
  have hqx := List.mem_zipIdx_iff_getElem?.mp (hperm.mem_iff.mp hq)
  unfold List.zipIdxLE at hle
  split at hle
  · rename_i hpq
    refine ⟨hpq, fun hqp => ?_⟩
    rw [if_pos hqp, decide_eq_true_eq] at hle
    obtain ⟨hi, hpi⟩ := List.getElem?_eq_some_iff.mp hpx
    obtain ⟨hj, hqj⟩ := List.getElem?_eq_some_iff.mp hqx
    have hR := List.pairwise_iff_getElem.mp h p.2 q.2 hi hj (Nat.lt_of_le_of_ne hle hne)
    rwa [hpi, hqj] at hR
  · exact nomatch hle

/-- A ranking of entries: each category once, with the sum of its amounts, the largest sum first,
and of equal ones that of the category that comes first. -/
structure Ranks (entries : List Entry) (ranking : Tally) : Prop where
  nodup : (ranking.map Prod.fst).Nodup
  names : ∀ name, name ∈ ranking.map Prod.fst ↔ ∃ e ∈ entries, e.category = name
  sums : ∀ sum ∈ ranking, sum.2 = spentOn entries sum.1
  order : ranking.Pairwise fun a b =>
    b.2 < a.2 ∨ a.2 = b.2 ∧ firstPlace entries a.1 < firstPlace entries b.1

namespace Tally

theorem spentOn_nonneg (h : ∀ e ∈ entries, 0 ≤ e.amount) (name : String) :
    0 ≤ spentOn entries name := by
  refine Binary64.sum_nonneg fun x hx => ?_
  obtain ⟨e, he, rfl⟩ := List.mem_map.mp hx
  exact h e (List.mem_filter.mp he).1

/-- The ranking of a tally of entries is the one of the entries. -/
theorem ranks_ofEntries (h : ∀ e ∈ entries, 0 ≤ e.amount) :
    Ranks entries (rank (ofEntries entries)) := by
  have hperm := rank_perm (ofEntries entries)
  have hnames : (ofEntries entries).map Prod.fst = categoriesOf entries := by
    rw [ofEntries_eq, List.map_map]
    exact List.map_id _
  have hsums : ∀ sum ∈ ofEntries entries, sum.2 = spentOn entries sum.1 := by
    intro sum hsum
    rw [ofEntries_eq] at hsum
    obtain ⟨name, -, rfl⟩ := List.mem_map.mp hsum
    rfl
  have hnonneg : ∀ sum ∈ ofEntries entries, 0 ≤ sum.2 := fun sum hsum =>
    hsums sum hsum ▸ spentOn_nonneg h sum.1
  refine ⟨?nodup, fun name => ?names, fun sum hsum => hsums sum (hperm.mem_iff.mp hsum), ?order⟩
  case nodup =>
    rw [(hperm.map Prod.fst).nodup_iff, hnames]
    exact nodup_categoriesOf entries
  case names => rw [(hperm.map Prod.fst).mem_iff, hnames, mem_categoriesOf]
  case order =>
    -- sums that are not negative compare like whole numbers, which are in a total order
    have hlevels : rank (ofEntries entries) =
        (ofEntries entries).mergeSort fun a b => decide (b.2.level ≤ a.2.level) := by
      have hmap := List.map_mergeSort (f := id) (l := ofEntries entries)
        (r := fun a b => !decide (a.2 < b.2)) (s := fun a b => decide (b.2.level ≤ a.2.level))
        fun a ha b hb => by
          rw [Bool.eq_iff_iff]
          simp [Binary64.lt_iff_level (hnonneg a ha) (hnonneg b hb)]
      rwa [List.map_id, List.map_id] at hmap
    have hfirst : (ofEntries entries).Pairwise fun a b => firstPlace entries a.1 <
        firstPlace entries b.1 := by
      rw [ofEntries_eq, List.pairwise_map]
      exact pairwise_categoriesOf entries
    have hsorted := pairwise_mergeSort (fun a b : String × Binary64 =>
      decide (b.2.level ≤ a.2.level)) (fun a b c hab hbc => by
        rw [decide_eq_true_eq] at hab hbc ⊢
        exact Int.le_trans hbc hab)
      (fun a b => by
        rw [Bool.or_eq_true, decide_eq_true_eq, decide_eq_true_eq]
        exact Int.le_total _ _)
      hfirst
    rw [← hlevels] at hsorted
    refine hsorted.imp_of_mem fun {a b} ha hb hab => ?_
    have hanonneg := hnonneg a (hperm.mem_iff.mp ha)
    have hbnonneg := hnonneg b (hperm.mem_iff.mp hb)
    obtain ⟨hle, hstable⟩ := hab
    rcases Int.lt_or_eq_of_le (of_decide_eq_true hle) with hlt | heq
    · exact .inl ((Binary64.lt_iff_level hbnonneg hanonneg).mpr hlt)
    · exact .inr ⟨(Binary64.level_inj hbnonneg hanonneg heq).symm,
        hstable (decide_eq_true (Int.le_of_eq heq.symm))⟩

end Tally

end BukuKas.Report
