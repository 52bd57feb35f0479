import BukuKas.Ledger.View
import Mathlib.Data.List.Nodup

/-!
# Sums per key

Grouping goes through the rows once and adds each amount to the sum of its key.  What it has
gathered of the rows that are past is said by `Groups`: the keys of these rows, each once, with the
exact sum of its rows.  One more row keeps this (`Groups.addTo`), so it holds of all rows.  An
amount that joins a sum joins the total, so nothing is lost between the groups and nothing counts
twice.

## Main results

* `groups_groupBy` : grouping sums up the rows of each key.
* `total_groupBy` : the sums of all keys are the sum of all rows.
* `perm_flatMap_filter` : what is gathered key by key is everything, once.
-/

namespace BukuKas

/-! ## Exact sums -/

namespace Cash

theorem add_zero (a : Cash) : a + zero = a := by
  rw [add_comm, zero_add]

/-- A sum does not depend on the order. -/
theorem total_perm {xs ys : List Cash} (h : xs.Perm ys) : total xs = total ys := by
  induction h with
  | nil => rfl
  | cons a _ ih => rw [total_cons, total_cons, ih]
  | swap a b xs =>
      rw [total_cons, total_cons, total_cons, total_cons, ← add_assoc, add_comm b a, add_assoc]
  | trans _ _ first second => rw [first, second]

end Cash

namespace Ledger

@[simp] theorem cashOf_nil : cashOf [] = Cash.zero := rfl

@[simp] theorem cashOf_cons (r : Row) (rows : List Row) :
    cashOf (r :: rows) = r.amount + cashOf rows := rfl

theorem cashOf_append (xs ys : List Row) : cashOf (xs ++ ys) = cashOf xs + cashOf ys := by
  rw [cashOf, List.map_append, Cash.total_append]
  rfl

theorem cashOf_perm {xs ys : List Row} (h : xs.Perm ys) : cashOf xs = cashOf ys :=
  Cash.total_perm (h.map Row.amount)

section Grouping

variable {κ : Type} [DecidableEq κ] {key : Row → κ}

/-! ## Adding to one sum -/

theorem keys_addTo (k : κ) (amount : Cash) (sums : List (κ × Cash)) :
    (addTo k amount sums).map Prod.fst =
      if k ∈ sums.map Prod.fst then sums.map Prod.fst else sums.map Prod.fst ++ [k] := by
  induction sums with
  | nil => simp [addTo]
  | cons head rest ih =>
      obtain ⟨other, sum⟩ := head
      by_cases hsame : other = k
      · simp [addTo, hsame]
      · simp only [addTo, if_neg hsame, List.map_cons, ih, List.mem_cons, Ne.symm hsame, false_or]
        split <;> rfl

theorem mem_keys_addTo {k other : κ} {amount : Cash} {sums : List (κ × Cash)} :
    other ∈ (addTo k amount sums).map Prod.fst ↔ other ∈ sums.map Prod.fst ∨ k = other := by
  rw [keys_addTo]
  split
  · rename_i hold
    exact ⟨.inl, fun h => h.elim id fun hsame => hsame ▸ hold⟩
  · rw [List.mem_append, List.mem_singleton, eq_comm]

theorem nodup_addTo (k : κ) (amount : Cash) {sums : List (κ × Cash)}
    (h : (sums.map Prod.fst).Nodup) :
    ((addTo k amount sums).map Prod.fst).Nodup := by
  rw [keys_addTo]
  split
  · exact h
  · rename_i hnew
    refine List.nodup_append.mpr ⟨h, List.nodup_singleton k,
      fun other hother last hlast hsame => hnew ?_⟩
    rwa [← List.mem_singleton.mp hlast, ← hsame]

/-- The amount goes to the sum of its key, or begins it, and the other sums stay. -/
theorem mem_addTo {k other : κ} {amount sum : Cash} {sums : List (κ × Cash)}
    (hnodup : (sums.map Prod.fst).Nodup) (h : (other, sum) ∈ addTo k amount sums) :
    (other ≠ k ∧ (other, sum) ∈ sums) ∨
      (other = k ∧ ((∃ old, (k, old) ∈ sums ∧ sum = old + amount) ∨
        (k ∉ sums.map Prod.fst ∧ sum = amount))) := by
  induction sums with
  | nil =>
      obtain ⟨rfl, rfl⟩ := Prod.mk.inj (List.mem_singleton.mp h)
      exact .inr ⟨rfl, .inr ⟨List.not_mem_nil, rfl⟩⟩
  | cons head rest ih =>
      obtain ⟨first, old⟩ := head
      rw [List.map_cons, List.nodup_cons] at hnodup
      by_cases hsame : first = k
      · subst hsame
        rw [addTo, if_pos rfl, List.mem_cons] at h
        rcases h with hhead | hrest
        · obtain ⟨rfl, rfl⟩ := Prod.mk.inj hhead
          exact .inr ⟨rfl, .inl ⟨old, List.mem_cons_self, rfl⟩⟩
        · refine .inl ⟨?_, List.mem_cons_of_mem _ hrest⟩
          rintro rfl
          exact hnodup.1 (List.mem_map.mpr ⟨_, hrest, rfl⟩)
      · rw [addTo, if_neg hsame, List.mem_cons] at h
        rcases h with hhead | hrest
        · obtain ⟨rfl, rfl⟩ := Prod.mk.inj hhead
          exact .inl ⟨hsame, List.mem_cons_self⟩
        · rcases ih hnodup.2 hrest with ⟨hother, hmem⟩ | ⟨hkey, ⟨found, hmem, hsum⟩ | ⟨hnew, hsum⟩⟩
          · exact .inl ⟨hother, List.mem_cons_of_mem _ hmem⟩
          · exact .inr ⟨hkey, .inl ⟨found, List.mem_cons_of_mem _ hmem, hsum⟩⟩
          · refine .inr ⟨hkey, .inr ⟨?_, hsum⟩⟩
            rw [List.map_cons, List.mem_cons]
            exact not_or.mpr ⟨Ne.symm hsame, hnew⟩

theorem total_addTo (k : κ) (amount : Cash) (sums : List (κ × Cash)) :
    Cash.total ((addTo k amount sums).map Prod.snd) = Cash.total (sums.map Prod.snd) + amount := by
  induction sums with
  | nil => exact Cash.add_comm amount Cash.zero
  | cons head rest ih =>
      obtain ⟨other, sum⟩ := head
      rw [addTo]
      split
      · simp only [List.map_cons, Cash.total_cons]
        rw [Cash.add_assoc, Cash.add_comm amount, ← Cash.add_assoc]
      · simp only [List.map_cons, Cash.total_cons, ih, Cash.add_assoc]

/-! ## All sums -/

/-- The sums of rows per key: each key of a row once, with the exact sum of its rows, and no other
key. -/
structure Groups (key : Row → κ) (rows : List Row) (sums : List (κ × Cash)) : Prop where
  nodup : (sums.map Prod.fst).Nodup
  keys : ∀ k, k ∈ sums.map Prod.fst ↔ ∃ r ∈ rows, key r = k
  exact : ∀ k sum, (k, sum) ∈ sums → sum = cashOf (rows.filter fun r => decide (key r = k))

/-- One more row is added to the sum of its key. -/
theorem Groups.addTo {past : List Row} {sums : List (κ × Cash)} (h : Groups key past sums)
    (r : Row) :
    Groups key (past ++ [r]) (Ledger.addTo (key r) r.amount sums) where
  nodup := nodup_addTo (key r) r.amount h.nodup
  keys k := by
    rw [mem_keys_addTo, h.keys]
    constructor
    · rintro (⟨found, hfound, hk⟩ | hk)
      · exact ⟨found, List.mem_append_left _ hfound, hk⟩
      · exact ⟨r, List.mem_append_right _ (List.mem_singleton_self r), hk⟩
    · rintro ⟨found, hfound, hk⟩
      rcases List.mem_append.mp hfound with hpast | hlast
      · exact .inl ⟨found, hpast, hk⟩
      · exact .inr (List.mem_singleton.mp hlast ▸ hk)
  exact k sum hmem := by
    rw [List.filter_append, cashOf_append]
    rcases mem_addTo h.nodup hmem with ⟨hother, hold⟩ | ⟨rfl, ⟨old, hold, rfl⟩ | ⟨hnew, rfl⟩⟩
    · rw [List.filter_cons_of_neg (by simpa using Ne.symm hother), List.filter_nil, cashOf_nil,
        Cash.add_zero]
      exact h.exact k sum hold
    · rw [List.filter_cons_of_pos (by simp), List.filter_nil, cashOf_cons, cashOf_nil,
        Cash.add_zero, ← h.exact _ old hold]
    · have hnone : past.filter (fun other => decide (key other = key r)) = [] := by
        rw [List.filter_eq_nil_iff]
        intro other hother hsame
        exact hnew ((h.keys _).mpr ⟨other, hother, of_decide_eq_true hsame⟩)
      rw [hnone, List.filter_cons_of_pos (by simp), List.filter_nil, cashOf_cons, cashOf_nil,
        Cash.add_zero, Cash.zero_add]

theorem groups_foldl (rows : List Row) {past : List Row} {sums : List (κ × Cash)}
    (h : Groups key past sums) :
    Groups key (past ++ rows)
    (rows.foldl (fun sums r => Ledger.addTo (key r) r.amount sums) sums) := by
  induction rows generalizing past sums with
  | nil => rwa [List.append_nil]
  | cons r rows ih =>
      rw [List.foldl_cons, List.append_cons]
      exact ih (h.addTo r)

/-- Grouping sums up the rows of each key. -/
theorem groups_groupBy (key : Row → κ) (rows : List Row) : Groups key rows (groupBy key rows) := by
  have hnone : Groups key [] [] := ⟨List.nodup_nil, fun k => by simp, fun _ _ => nofun⟩
  exact groups_foldl rows hnone

theorem total_foldl (key : Row → κ) (rows : List Row) (sums : List (κ × Cash)) :
    Cash.total ((rows.foldl (fun sums r => Ledger.addTo (key r) r.amount sums) sums).map Prod.snd) =
      Cash.total (sums.map Prod.snd) + cashOf rows := by
  induction rows generalizing sums with
  | nil => exact (Cash.add_zero _).symm
  | cons r rows ih => rw [List.foldl_cons, ih, total_addTo, cashOf_cons, Cash.add_assoc]

/-- The sums of all keys are the sum of all rows. -/
theorem total_groupBy (key : Row → κ) (rows : List Row) :
    Cash.total ((groupBy key rows).map Prod.snd) = cashOf rows :=
  (total_foldl key rows []).trans (Cash.zero_add _)

/-- Neither the order of the rows nor that of the sums matters. -/
theorem Groups.perm {rows others : List Row} {sums : List (κ × Cash)} (h : Groups key rows sums)
    (hrows : rows.Perm others) {sorted : List (κ × Cash)} (hsums : sums.Perm sorted) :
    Groups key others sorted where
  nodup := (hsums.map Prod.fst).nodup h.nodup
  keys k := by
    rw [← (hsums.map Prod.fst).mem_iff, h.keys]
    simp only [hrows.mem_iff]
  exact k sum hmem := by
    rw [h.exact k sum (hsums.mem_iff.mpr hmem)]
    exact cashOf_perm (hrows.filter _)

end Grouping

/-! ## Parts per key -/

/-- What is gathered key by key is what has one of the keys. -/
theorem perm_flatMap_filter {α κ : Type} [DecidableEq κ] (key : α → κ) (xs : List α) {keys : List κ}
    (h : keys.Nodup) : (keys.flatMap fun k => xs.filter fun x => decide (key x = k)).Perm
      (xs.filter fun x => decide (key x ∈ keys)) := by
  induction keys with
  | nil => simp
  | cons k rest ih =>
      rw [List.nodup_cons] at h
      have hsplit := List.filter_append_perm (fun x => decide (key x = k))
        (xs.filter fun x => decide (key x ∈ k :: rest))
      have hfirst :
          (xs.filter fun x => decide (key x ∈ k :: rest)).filter (fun x => decide (key x = k)) =
          xs.filter fun x => decide (key x = k) := by
        rw [List.filter_filter]
        refine List.filter_congr fun x _ => ?_
        by_cases hkey : key x = k <;> simp [hkey]
      have hlater :
          (xs.filter fun x => decide (key x ∈ k :: rest)).filter (fun x => !decide (key x = k)) =
          xs.filter fun x => decide (key x ∈ rest) := by
        rw [List.filter_filter]
        refine List.filter_congr fun x _ => ?_
        by_cases hkey : key x = k
        · simp [hkey, h.1]
        · simp [hkey]
      rw [hfirst, hlater] at hsplit
      rw [List.flatMap_cons]
      exact ((ih h.2).append_left _).trans hsplit

end Ledger

end BukuKas
