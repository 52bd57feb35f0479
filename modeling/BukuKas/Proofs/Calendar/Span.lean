import BukuKas.Proofs.Calendar.Count
import Mathlib.Data.List.Basic

/-!
# Spans of days

A date is as good as its number: the order of dates is that of their numbers, no two dates share
one, and to go some days on is to go to the number that is so much larger.  So a span of dates is an
interval of numbers, and whatever is counted in it is counted there.

## Main results

* `le_iff`, `lt_iff`, `number_inj` : dates are ordered and told apart by their numbers.
* `addDays?_eq_some_iff` : the date so many days later.
* `mem_span_iff`, `pairwise_span`, `length_span` : the dates from a first to a last one.
* `countP_span_from`, `countP_span_upTo` : how many of them come from a day on, and how many up to
  it.
-/

namespace BukuKas.Calendar.Date

/-! ## Dates by their numbers -/

theorem le_iff {d e : Date} : d ≤ e ↔ d.number ≤ e.number := by
  refine ⟨number_le_of_le, fun h => le_of_not_lt fun hlt => ?_⟩
  have := number_lt_of_lt hlt
  omega

theorem lt_iff {d e : Date} : d < e ↔ d.number < e.number := by
  refine ⟨number_lt_of_lt, fun h => ?_⟩
  by_cases hlt : d < e
  · exact hlt
  · have := number_le_of_le (le_of_not_lt hlt)
    omega

theorem le_refl (d : Date) : d ≤ d :=
  le_iff.mpr (Nat.le_refl _)

theorem le_of_lt {d e : Date} (h : d < e) : d ≤ e :=
  le_iff.mpr (Nat.le_of_lt (lt_iff.mp h))

/-- No two dates have the same number. -/
theorem number_inj {d e : Date} : d.number = e.number ↔ d = e := by
  refine ⟨fun h => ?_, fun h => h ▸ rfl⟩
  rcases lt_or_eq_of_le (le_iff.mpr (Nat.le_of_eq h)) with hlt | heq
  · have := number_lt_of_lt hlt
    omega
  · exact heq

theorem le_antisymm {d e : Date} (hde : d ≤ e) (hed : e ≤ d) : d = e :=
  number_inj.mp (Nat.le_antisymm (le_iff.mp hde) (le_iff.mp hed))

theorem ofNumber?_number (d : Date) : ofNumber? d.number = some d := by
  obtain ⟨e, he, hnumber⟩ := exists_ofNumber? d.one_le_number d.number_le_lastNumber
  rw [he, number_inj.mp hnumber]

/-- The search for the year of a day behind the last one ends outside the years. -/
theorem year_of_large {past : Nat} (h : lastNumber ≤ past) : 9999 ≤ (yearAndDay past).1 := by
  unfold lastNumber at h
  unfold yearAndDay
  dsimp only
  by_cases hcycle : 25 ≤ past / 146097
  · omega
  · -- the days that are left begin with the last year of a cycle
    have hinCycle : 145731 ≤ past % 146097 := by omega
    have hcycles : past / 146097 = 24 := by omega
    generalize past % 146097 = inCycle at *
    have hcenturies : min (inCycle / 36524) 3 = 3 := by omega
    rw [hcycles, hcenturies]
    have hinCentury : 36159 ≤ inCycle - 3 * 36524 := by omega
    generalize inCycle - 3 * 36524 = inCentury at *
    omega

/-- A number is that of the date that is found for it. -/
theorem number_of_ofNumber? {n : Nat} {d : Date} (h : ofNumber? n = some d) : d.number = n := by
  by_cases hfirst : n = 0
  · rw [ofNumber?, if_pos hfirst] at h
    exact nomatch h
  · by_cases hlast : n ≤ lastNumber
    · obtain ⟨e, he, hnumber⟩ := exists_ofNumber? (Nat.pos_of_ne_zero hfirst) hlast
      rw [he] at h
      exact Option.some.inj h ▸ hnumber
    · have hyear := @year_of_large (n - 1) (by omega)
      rw [ofNumber?, if_neg hfirst] at h
      dsimp only at h
      rw [ofParts?, dif_neg fun hdate => by have := hdate.2.1; omega] at h
      exact nomatch h

/-- The date so many days later is the one whose number is so much larger. -/
theorem addDays?_eq_some_iff {d e : Date} {days : Int} :
    d.addDays? days = some e ↔ (e.number : Int) = d.number + days := by
  unfold addDays?
  dsimp only
  constructor
  · intro h
    split at h
    · exact nomatch h
    · have := number_of_ofNumber? h
      omega
  · intro h
    have hfirst := e.one_le_number
    rw [if_neg (by omega), ← h, Int.toNat_natCast, ofNumber?_number]

/-! ## The dates of a span -/

/-- The dates from a first to a last one, in their order. -/
def span (start stop : Date) : List Date :=
  (List.range' start.number (stop.number + 1 - start.number)).filterMap ofNumber?

theorem map_number_span (start stop : Date) :
    (span start stop).map number = List.range' start.number (stop.number + 1 - start.number) := by
  have hfirst := start.one_le_number
  have hlast := stop.number_le_lastNumber
  have hnumber : ∀ n ∈ List.range' start.number (stop.number + 1 - start.number),
      (ofNumber? n).map number = some n := by
    intro n hn
    rw [List.mem_range'_1] at hn
    obtain ⟨d, hd, hsame⟩ := exists_ofNumber? (n := n) (by omega) (by omega)
    rw [hd, Option.map_some, hsame]
  rw [span, List.map_filterMap, List.filterMap_congr hnumber, List.filterMap_some]

theorem mem_span_iff {start stop d : Date} : d ∈ span start stop ↔ start ≤ d ∧ d ≤ stop := by
  have hmem : d ∈ span start stop ↔ d.number ∈ (span start stop).map number := by
    refine ⟨List.mem_map_of_mem, fun h => ?_⟩
    obtain ⟨e, he, hnumber⟩ := List.mem_map.mp h
    exact number_inj.mp hnumber ▸ he
  rw [hmem, map_number_span, List.mem_range'_1, le_iff, le_iff]
  omega

@[simp] theorem length_span (start stop : Date) :
    (span start stop).length = stop.number + 1 - start.number := by
  rw [← List.length_map number, map_number_span, List.length_range']

/-- The dates of a span come in their order. -/
theorem pairwise_span (start stop : Date) : (span start stop).Pairwise (· < ·) := by
  have hnumbers : ((span start stop).map number).Pairwise (· < ·) := by
    rw [map_number_span]
    exact List.pairwise_lt_range'
  exact (List.pairwise_map.mp hnumbers).imp lt_iff.mpr

theorem nodup_span (start stop : Date) : (span start stop).Nodup :=
  (pairwise_span start stop).imp fun hlt heq => by
    rw [lt_iff, heq] at hlt
    exact Nat.lt_irrefl _ hlt

/-! ## Counting in a span -/

theorem countP_range'_from (day first count : Nat) :
    (List.range' first count).countP (fun n => decide (day ≤ n)) = first + count -
      max day first := by
  induction count generalizing first with
  | zero =>
      rw [List.range'_zero, List.countP_nil]
      omega
  | succ count ih =>
      rw [List.range'_succ, List.countP_cons, ih (first + 1)]
      by_cases h : day ≤ first
      · rw [if_pos (decide_eq_true h)]
        omega
      · rw [if_neg (by simpa using h)]
        omega

theorem countP_range'_upTo (day first count : Nat) :
    (List.range' first count).countP (fun n => decide (n ≤ day)) = min (day + 1)
    (first + count) - first := by
  induction count generalizing first with
  | zero =>
      rw [List.range'_zero, List.countP_nil]
      omega
  | succ count ih =>
      rw [List.range'_succ, List.countP_cons, ih (first + 1)]
      by_cases h : first ≤ day
      · rw [if_pos (decide_eq_true h)]
        omega
      · rw [if_neg (by simpa using h)]
        omega

/-- How many dates of a span come from a day on. -/
theorem countP_span_from (start stop day : Date) :
    (span start stop).countP (fun d => decide (day ≤ d)) =
      stop.number + 1 - max day.number start.number := by
  have hnumbers := countP_range'_from day.number start.number (stop.number + 1 - start.number)
  rw [← map_number_span, List.countP_map] at hnumbers
  simp only [Function.comp_def, ← le_iff] at hnumbers
  omega

/-- How many dates of a span come up to a day. -/
theorem countP_span_upTo (start stop day : Date) :
    (span start stop).countP (fun d => decide (d ≤ day)) =
      min day.number stop.number + 1 - start.number := by
  have hnumbers := countP_range'_upTo day.number start.number (stop.number + 1 - start.number)
  rw [← map_number_span, List.countP_map] at hnumbers
  simp only [Function.comp_def, ← le_iff] at hnumbers
  omega

end BukuKas.Calendar.Date
