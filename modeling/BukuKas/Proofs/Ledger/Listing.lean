import BukuKas.Proofs.Message.Meaning

/-!
# Lists of a day

The list of a day goes by the order of recording and then by number.  Where rows have different
numbers there is one such list only, so the list without one of its rows is the list of what is left
when that row is gone, however the rows are stored.

## Main results

* `listDay_of_loses` : the list of a day after one of its rows is gone.
-/

namespace BukuKas.Ledger

open Calendar (Date)

theorem later_iff {a b : Row} :
    later a b = true ↔ b.created < a.created ∨ (a.created = b.created ∧ b.id ≤ a.id) := by
  simp [later]

theorem later_trans {a b c : Row} (hab : later a b = true) (hbc : later b c = true) :
    later a c = true := by
  rw [later_iff] at hab hbc ⊢
  omega

theorem later_total (a b : Row) : (later a b || later b a) = true := by
  rw [Bool.or_eq_true, later_iff, later_iff]
  omega

/-- Rows with different numbers are listed in one order only. -/
theorem eq_of_later {a b : Row} (hid : a.id = b.id → a = b) (hab : later a b = true)
    (hba : later b a = true) : a = b := by
  rw [later_iff] at hab hba
  exact hid (by omega)

theorem sorted_later (xs : List Row) :
    (xs.mergeSort later).Pairwise fun a b => later a b = true :=
  @List.pairwise_mergeSort Row later (fun _ _ _ => later_trans) later_total xs

/-- The other rows of the list of a day are the rows that count without the one. -/
theorem perm_of_listDay {before behind front back : List Row} {row : Row} {user : Int} {day : Date}
    (h : listDay (before ++ row :: behind) user day = front ++ row :: back) :
    List.Perm (front ++ back) (expenses (before ++ behind) user day day) := by
  have hrow : row ∈ listDay (before ++ row :: behind) user day := by simp [h]
  have hcounts : expenses [row] user day day = [row] := by
    obtain ⟨-, hcount⟩ := mem_expenses_iff.mp (List.mem_mergeSort.mp hrow)
    exact List.filter_eq_self.mpr fun r hr => by
      have hmem := mem_expenses_iff.mpr ⟨List.mem_singleton_self row, hcount⟩
      rw [List.mem_singleton.mp hr]
      exact (List.mem_filter.mp hmem).2
  have hall : List.Perm (front ++ row :: back)
      (expenses (before ++ [row] ++ behind) user day day) := by
    rw [← h, List.append_assoc]
    exact List.mergeSort_perm _ _
  rw [expenses_append, expenses_append, hcounts, List.append_assoc] at hall
  rw [expenses_append]
  exact (List.perm_cons row).mp (List.perm_middle.symm.trans (hall.trans List.perm_middle))

/-- Of the list of a day one row is gone, and the others stay in their order. -/
theorem listDay_of_loses {rows rest : List Row} {user : Int} {day : Date} {row : Row}
    {front back : List Row} (hkeys : (rows.map Row.id).Nodup) (hloses : Loses row rows rest)
    (hlisted : listDay rows user day = front ++ row :: back) :
    listDay rest user day = front ++ back := by
  obtain ⟨before, behind, rfl, rfl⟩ := hloses
  have hperm := perm_of_listDay hlisted
  have hmem {r : Row} (hr : r ∈ expenses (before ++ behind) user day day) :
      r ∈ before ++ row :: behind := by
    have hold := (mem_expenses_iff.mp hr).1
    simp only [List.mem_append, List.mem_cons] at hold ⊢
    exact hold.imp_right .inr
  -- both lists are sorted, and no two of their rows may change places
  refine @List.Perm.eq_of_pairwise Row (fun a b => later a b = true) _ _ ?_ (sorted_later _) ?_
    ((List.mergeSort_perm _ _).trans hperm.symm)
  · intro a b ha hb
    exact eq_of_later fun hid => List.inj_on_of_nodup_map hkeys (hmem (List.mem_mergeSort.mp ha))
      (hmem (hperm.subset hb)) hid
  · have hwhole : (front ++ row :: back).Pairwise fun a b => later a b = true := by
      rw [← hlisted]
      exact sorted_later _
    exact hwhole.sublist (List.Sublist.append_left (List.sublist_cons_self row back) front)

end BukuKas.Ledger
