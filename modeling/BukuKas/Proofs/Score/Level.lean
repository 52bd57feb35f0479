import BukuKas.Proofs.Number.Finite

/-!
# Points in any order, and the levels they lead to

The points of several amounts do not depend on their order, and whatever is left out takes at least
the least points of an amount with it.  Levels follow each other with growing thresholds, so points
that reach a level and do not reach the next one belong to this level alone, and more points never
lead to a lower level.

## Main results

* `totalPoints_perm`, `exists_totalPoints_sublist` : amounts in another order, and fewer amounts.
* `Level.eq_ofPoints_iff` : the level of points is the only one that they reach without reaching the
  next.
* `Level.missing_ofPoints_iff` : points are missing to a next level exactly when there is one.
* `Level.number_ofPoints_mono` : more points never lead to a lower level.
-/

namespace BukuKas.Score

open Number (Binary64)

/-! ## Points of several amounts -/

section Lists

variable {amount : Binary64} {xs ys : List Binary64} {p q : Int}

theorem totalPoints_cons_iff : totalPoints (amount :: xs) = .ok p ↔
    ∃ first rest, points amount = .ok first ∧ totalPoints xs = .ok rest ∧ p = first + rest := by
  rw [totalPoints]
  cases points amount with
  | error fault => simp
  | ok first =>
      cases totalPoints xs with
      | error fault => simp
      | ok rest => simp [eq_comm]

/-- Amounts in another order earn the same points. -/
theorem totalPoints_perm (hperm : xs.Perm ys) (h : totalPoints xs = .ok p) :
    totalPoints ys = .ok p := by
  induction hperm generalizing p with
  | nil => exact h
  | cons amount _ ih =>
      obtain ⟨first, rest, hfirst, hrest, rfl⟩ := totalPoints_cons_iff.mp h
      exact totalPoints_cons_iff.mpr ⟨first, rest, hfirst, ih hrest, rfl⟩
  | swap second first others =>
      obtain ⟨a, rest, ha, hrest, rfl⟩ := totalPoints_cons_iff.mp h
      obtain ⟨b, last, hb, hlast, rfl⟩ := totalPoints_cons_iff.mp hrest
      have hothers := totalPoints_cons_iff.mpr ⟨a, last, ha, hlast, rfl⟩
      exact totalPoints_cons_iff.mpr ⟨b, a + last, hb, hothers, by omega⟩
  | trans _ _ ihfirst ihsecond => exact ihsecond (ihfirst h)

/-- Amounts that are left out take at least the least points of each with them. -/
theorem exists_totalPoints_sublist (h : xs.Sublist ys) (hq : totalPoints ys = .ok q) :
    ∃ p, totalPoints xs = .ok p ∧ p + leastPoints * (ys.length - xs.length : Nat) ≤ q := by
  induction h generalizing q with
  | slnil => exact ⟨q, hq, by simp⟩
  | @cons xs ys amount h ih =>
      obtain ⟨first, rest, hfirst, hrest, rfl⟩ := totalPoints_cons_iff.mp hq
      obtain ⟨p, hp, hless⟩ := ih hrest
      have hleast := leastPoints_le_points hfirst
      have hlength := h.length_le
      refine ⟨p, hp, ?_⟩
      unfold leastPoints at hless hleast ⊢
      rw [List.length_cons]
      omega
  | @cons_cons xs ys amount h ih =>
      obtain ⟨first, rest, hfirst, hrest, rfl⟩ := totalPoints_cons_iff.mp hq
      obtain ⟨p, hp, hless⟩ := ih hrest
      refine ⟨first + p, totalPoints_cons_iff.mpr ⟨first, p, hfirst, hp, rfl⟩, ?_⟩
      rw [List.length_cons, List.length_cons, Nat.add_sub_add_right]
      omega

/-- Finite amounts earn points, at least the least points each. -/
theorem exists_totalPoints_of_finite (h : ∀ x ∈ xs, x.isFinite = true) :
    ∃ p, totalPoints xs = .ok p ∧ leastPoints * xs.length ≤ p := by
  obtain ⟨p, hp⟩ := exists_totalPoints_iff.mpr h
  obtain ⟨none, hnone, hleast⟩ := exists_totalPoints_sublist (List.nil_sublist xs) hp
  obtain rfl : 0 = none := Except.ok.inj hnone
  refine ⟨p, hp, ?_⟩
  rwa [Int.zero_add, List.length_nil, Nat.sub_zero] at hleast

end Lists

/-! ## Levels -/

namespace Level

/-- The level stands at that place among the levels, the first of which has the given number, and
its points reach it and do not reach the next one. -/
structure IsIn (table : List (Int × String)) (first place : Nat) (l : Level) : Prop where
  number : l.number = first + place
  entry : table[place]? = some (l.threshold, l.name)
  next : l.next = (table[place + 1]?).map Prod.fst
  reached : l.threshold ≤ l.points
  short : ∀ next ∈ l.next, l.points < next

variable {table more : List (Int × String)} {start : Int × String} {first place : Nat}
    {l other : Level}
variable {points : Int}

/-- The search finds a level that the points reach without reaching the next one. -/
theorem isIn_search (hstart : start.1 ≤ points) :
    ∃ place, (search points first start more).IsIn (start :: more) first place := by
  induction more generalizing first start with
  | nil => exact ⟨0, rfl, rfl, rfl, hstart, nofun⟩
  | cons second more ih =>
      rw [search]
      split
      next hreached =>
        obtain ⟨place, hplace⟩ := @ih second (first + 1) hreached
        have hnumber := hplace.number
        exact ⟨place + 1, by omega, hplace.entry, hplace.next, hplace.reached, hplace.short⟩
      next hshort =>
        refine ⟨0, rfl, rfl, rfl, hstart, fun next hnext => ?_⟩
        obtain rfl := Option.mem_some.mp hnext
        exact Int.not_le.mp hshort

/-- Where thresholds grow, no level with as many points or more stands before. -/
theorem IsIn.place_le (hgrow : table.Pairwise fun a b => a.1 < b.1) (h : l.IsIn table first place)
    {later : Nat} (hother : other.IsIn table first later) (hpoints : l.points ≤ other.points) :
    place ≤ later := by
  apply Nat.le_of_not_lt
  intro hbefore
  -- the level after the other one comes no later than the first, so the points reach it
  obtain ⟨hplace, hentry⟩ := List.getElem?_eq_some_iff.mp h.entry
  have hafter : later + 1 < table.length := by omega
  have hnext : other.next = some (table[later + 1]).1 := by
    rw [hother.next, List.getElem?_eq_getElem hafter]
    rfl
  have hshort := hother.short _ hnext
  have hthreshold : (table[later + 1]).1 ≤ l.threshold := by
    have hsame : (table[place]).1 = l.threshold := congrArg Prod.fst hentry
    rw [← hsame]
    rcases Nat.lt_or_eq_of_le (Nat.succ_le_of_lt hbefore) with hlt | heq
    · exact Int.le_of_lt (List.pairwise_iff_getElem.mp hgrow _ _ hafter hplace hlt)
    · exact Int.le_of_eq (congrArg Prod.fst (getElem_congr_idx heq))
  have hreached := h.reached
  omega

/-- Where thresholds grow, points have one level. -/
theorem IsIn.unique (hgrow : table.Pairwise fun a b => a.1 < b.1) (h : l.IsIn table first place)
    {later : Nat} (hother : other.IsIn table first later) (hpoints : l.points = other.points) :
    l = other := by
  obtain rfl : place = later := Nat.le_antisymm (h.place_le hgrow hother (Int.le_of_eq hpoints))
    (hother.place_le hgrow h (Int.le_of_eq hpoints.symm))
  have hentry := Option.some.inj (h.entry.symm.trans hother.entry)
  have hnumber := h.number.trans hother.number.symm
  have hnext := h.next.trans hother.next.symm
  obtain ⟨hthreshold, hname⟩ := Prod.mk.inj hentry
  cases l
  cases other
  simp_all

/-- Points are missing to a next level exactly when there is one. -/
theorem IsIn.missing_iff (h : l.IsIn table first place) :
    (∃ n, l.missing = some n ∧ 0 < n) ↔ place + 1 < table.length := by
  constructor
  · rintro ⟨n, hn, -⟩
    obtain ⟨next, hnext, -⟩ := Option.map_eq_some_iff.mp hn
    obtain ⟨entry, hentry, -⟩ := Option.map_eq_some_iff.mp (h.next.symm.trans hnext)
    exact (List.getElem?_eq_some_iff.mp hentry).1
  · intro hplace
    have hnext : l.next = some (table[place + 1]).1 := by
      rw [h.next, List.getElem?_eq_getElem hplace]
      rfl
    refine ⟨(table[place + 1]).1 - l.points, congrArg (Option.map _) hnext, ?_⟩
    have hshort := h.short _ hnext
    omega

theorem le_number_search (points : Int) (first : Nat) (start : Int × String)
    (more : List (Int × String)) :
    first ≤ (search points first start more).number := by
  induction more generalizing first start with
  | nil => exact Nat.le_refl first
  | cons second more ih =>
      rw [search]
      split
      · exact Nat.le_of_succ_le (ih (first + 1) second)
      · exact Nat.le_refl first

/-- More points lead the search at least as far. -/
theorem number_search_mono {p q : Int} (h : p ≤ q) (first : Nat) (start : Int × String)
    (more : List (Int × String)) :
    (search p first start more).number ≤ (search q first start more).number := by
  induction more generalizing first start with
  | nil => exact Nat.le_refl first
  | cons second more ih =>
      by_cases hreached : second.1 ≤ p
      · rw [search, search, if_pos hreached, if_pos (Int.le_trans hreached h)]
        exact ih (first + 1) second
      · rw [search, if_neg hreached]
        exact le_number_search q first start (second :: more)

/-! ## The six levels -/

theorem levels_grow : levels.Pairwise fun a b => a.1 < b.1 := by decide

/-- Points that are not negative have a level among the six. -/
theorem isIn_ofPoints (h : 0 ≤ points) : ∃ place, (ofPoints points).IsIn levels 1 place :=
  isIn_search h

/-- The level of points is the only one that they reach without reaching the next. -/
theorem eq_ofPoints_iff (h : 0 ≤ points) (l : Level) :
    l = ofPoints points ↔ l.points = points ∧ ∃ place, l.IsIn levels 1 place := by
  constructor
  · rintro rfl
    exact ⟨points_ofPoints points, isIn_ofPoints h⟩
  · rintro ⟨hpoints, place, hl⟩
    obtain ⟨found, hfound⟩ := isIn_ofPoints h
    exact hl.unique levels_grow hfound (hpoints.trans (points_ofPoints points).symm)

/-- Points are missing to a next level exactly when the level is not the last one. -/
theorem missing_ofPoints_iff (h : 0 ≤ points) :
    (∃ n, (ofPoints points).missing = some n ∧ 0 < n) ↔
      (ofPoints points).number < levels.length := by
  obtain ⟨place, hplace⟩ := isIn_ofPoints h
  rw [hplace.missing_iff, hplace.number, Nat.add_comm 1 place]

/-- More points never lead to a lower level. -/
theorem number_ofPoints_mono {p q : Int} (h : p ≤ q) : (ofPoints p).number ≤ (ofPoints q).number :=
  number_search_mono h 1 _ _

end Level

end BukuKas.Score
