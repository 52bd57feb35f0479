import BukuKas.Fault
import BukuKas.Number.Binary64

/-!
# Experience and levels

Every recorded expense earns a point for each full thousand, and at least five points.  The points
of all expenses together decide the level: six levels, each from a threshold on.

## Main results

* `leastPoints_le_points` : an expense earns at least five points.
* `totalPoints_append` : points are additive over lists of expenses.
-/

namespace BukuKas.Score

open Number (Binary64)

/-- The least number of points that an expense earns. -/
def leastPoints : Int := 5

/-- The points of an expense. -/
def points (amount : Binary64) : Except Fault Int :=
  match (amount / 1000).floor? with
  | some thousands => .ok (max leastPoints thousands)
  | none => .error (if amount = .nan then .notANumber else .infiniteNumber)

/-- The points of several expenses together. -/
def totalPoints : List Binary64 → Except Fault Int
  | [] => .ok 0
  | amount :: amounts =>
    match points amount with
    | .error fault => .error fault
    | .ok p =>
      match totalPoints amounts with
      | .error fault => .error fault
      | .ok rest => .ok (p + rest)

theorem leastPoints_le_points {amount : Binary64} {p : Int} (h : points amount = .ok p) :
    leastPoints ≤ p := by
  unfold points at h
  split at h
  · injection h with h
    omega
  · cases h

theorem totalPoints_append {xs ys : List Binary64} {p q : Int} (hx : totalPoints xs = .ok p)
    (hy : totalPoints ys = .ok q) : totalPoints (xs ++ ys) = .ok (p + q) := by
  induction xs generalizing p with
  | nil =>
    simp only [totalPoints, Except.ok.injEq] at hx
    simp [← hx, hy]
  | cons x xs ih =>
    simp only [List.cons_append, totalPoints] at hx ⊢
    cases hp : points x with
    | error fault => simp [hp] at hx
    | ok a =>
      cases hr : totalPoints xs with
      | error fault => simp [hp, hr] at hx
      | ok b =>
        simp only [hp, hr, Except.ok.injEq] at hx
        simp [ih hr, ← hx, Int.add_assoc]

/-- The levels: the points from which each begins, and its name. -/
def levels : List (Int × String) := [
  (0, "Pemula Hemat"),
  (100, "Pencatat Rajin"),
  (300, "Pengatur Cerdas"),
  (600, "Ahli Anggaran"),
  (1000, "Master Keuangan"),
  (2000, "Legenda Finansial")]

/-- A level, and where the points stand in it. -/
structure Level where
  /-- The number of the level, from one. -/
  number : Nat
  /-- Its name. -/
  name : String
  /-- The points that led to it. -/
  points : Int
  /-- The points from which it begins. -/
  threshold : Int
  /-- The points from which the next level begins, if there is one. -/
  next : Option Int
  deriving DecidableEq, Repr

namespace Level

/-- The points that are missing to the next level. -/
def missing (l : Level) : Option Int :=
  l.next.map (· - l.points)

/-- The last of these levels that the points reach, the first of them being reached in any case.
The number is that of the first. -/
def search (points : Int) (number : Nat) (first : Int × String) : List (Int × String) → Level
  | [] => ⟨number, first.2, points, first.1, none⟩
  | second :: more =>
    if second.1 ≤ points then search points (number + 1) second more
    else ⟨number, first.2, points, first.1, some second.1⟩

/-- The level of a number of points.  Points below zero belong to the first level. -/
def ofPoints (points : Int) : Level :=
  search points 1 (0, "Pemula Hemat") levels.tail

theorem points_search (points : Int) (number : Nat) (first : Int × String)
    (more : List (Int × String)) : (search points number first more).points = points := by
  induction more generalizing number first with
  | nil => rfl
  | cons second more ih =>
    rw [search]
    split
    · exact ih _ _
    · rfl

@[simp] theorem points_ofPoints (points : Int) : (ofPoints points).points = points :=
  points_search _ _ _ _

end Level

end BukuKas.Score
