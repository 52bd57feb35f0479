import BukuKas.Money
import BukuKas.Proofs.Number.Size
import BukuKas.Proofs.Period
import BukuKas.Score.Experience
import BukuKas.Score.Pace

/-!
# Scores are defined

Points, grades and shares are read off quotients.  For numbers of moderate size and sound periods
each of these quotients is a number again, and what it is divided by is not zero.

## Main results

* `Score.exists_totalPoints` : amounts of moderate size earn points.
* `Score.Health.exists_ofBudget` : a positive budget of a sound period has a health.
* `Period.Sound.divides` : nothing that a report of a sound period divides by is zero.
-/

namespace BukuKas

open Calendar (Date)
open Number (Binary64 quantaPerOne twoTo_pos)

namespace Number.Binary64

/-- A whole number from one to the last day is not rounded to zero. -/
theorem ofInt_ne_zero {n : Int} (hlow : 1 ≤ n) (hhigh : n ≤ Date.lastNumber) : ofInt n ≠ 0 := by
  have hwithin : (ofInt n).Within (2 * Date.lastNumber + 1) :=
    within_ofRatio (by decide) (by decide +kernel) (by omega)
  exact ne_zero_of_atLeastPart
    (atLeastPart_ofRatio (by omega) (by decide) (by decide +kernel) (isFinite_of_within hwithin))

end Number.Binary64

namespace Score

/-- A number of moderate size earns points. -/
theorem exists_points {amount : Binary64} {bound : Nat} (h : amount.Within bound)
    (hbound : bound * 2 < Binary64.boundLimit) : ∃ p, points amount = .ok p := by
  have hthousands : (amount / 1000).Within (2 * (bound * 2) + 1) :=
    Binary64.within_div h (Binary64.atLeastPart_ofNat (by decide) (by decide +kernel)) hbound
  obtain ⟨n, hn⟩ := Binary64.floor?_of_within hthousands
  unfold points
  rw [hn]
  exact ⟨_, rfl⟩

theorem exists_totalPoints {amounts : List Binary64} {bound : Nat}
    (h : ∀ amount ∈ amounts, amount.Within bound) (hbound : bound * 2 < Binary64.boundLimit) :
    ∃ p, totalPoints amounts = .ok p := by
  induction amounts with
  | nil => exact ⟨0, rfl⟩
  | cons amount rest ih =>
      obtain ⟨p, hp⟩ := exists_points (h amount List.mem_cons_self) hbound
      obtain ⟨q, hq⟩ := ih fun other hother => h other (List.mem_cons_of_mem amount hother)
      unfold totalPoints
      rw [hp, hq]
      exact ⟨p + q, rfl⟩

namespace Health

theorem within_share {daysLeft totalDays : Int} (htotal : 1 ≤ totalDays)
    (hleft : 0 ≤ daysLeft ∧ daysLeft ≤ totalDays) :
    (Binary64.ofRatio daysLeft totalDays.toNat).Within (2 * 1 + 1) :=
  Binary64.within_ofRatio (by omega) (by decide +kernel) (by omega)

/-- A positive budget of a period in which some days are left has a health. -/
theorem exists_ofBudget {budget : Binary64} {daysLeft totalDays : Int} (spent : Binary64)
    (hbudget : ¬budget ≤ 0) (htotal : 1 ≤ totalDays) (hleft : 0 ≤ daysLeft ∧ daysLeft ≤ totalDays) :
    ∃ health, ofBudget spent budget daysLeft totalDays = .ok health := by
  have hshare := Binary64.isFinite_of_within (within_share htotal hleft)
  unfold ofBudget
  rw [if_neg hbudget, if_neg (by omega)]
  dsimp only
  rw [hshare]
  exact ⟨_, rfl⟩

/-- The share that is left is a percentage. -/
theorem between_percentLeft {share : Binary64} {bound : Nat} (h : share.Within bound)
    (hbound : bound * 201 < Binary64.boundLimit) :
    (percentLeft share).Between 0 (100 * (quantaPerOne : Int)) := by
  have hscaled : (share * 100).Within (2 * (bound * 201) + 1) :=
    Binary64.within_mul h (Binary64.within_ofNat (n := 100) (by decide +kernel)) hbound
  have hnan : share * 100 ≠ .nan := by
    obtain ⟨q, hgrid, heq, -⟩ := hscaled
    rw [heq]
    exact nofun
  unfold percentLeft
  generalize share * 100 = scaled at hnan
  obtain ⟨hzero, hzeroEq⟩ := Binary64.zero_eq
  obtain ⟨hhundred, hhundredEq⟩ := Binary64.hundred_eq
  rw [hzeroEq, hhundredEq]
  exact (Binary64.between_cut (by omega) hnan).1

/-- What the spent share is divided by is not zero. -/
theorem passed_ne_zero {share : Binary64} {bound : Nat} (h : share.Within bound)
    (hbound : bound * 201 < Binary64.boundLimit) : 100 - percentLeft share + 1 ≠ 0 := by
  obtain ⟨left, hleft, hleftEq, hlow, hhigh⟩ := between_percentLeft h hbound
  obtain ⟨hone, honeEq⟩ := Binary64.one_eq
  obtain ⟨hhundred, hhundredEq⟩ := Binary64.hundred_eq
  rw [hleftEq, honeEq, hhundredEq, Binary64.finite_sub_finite]
  have hdifference :
      (Binary64.ofQuanta (100 * (quantaPerOne : Int) + -left) 1).Within (2 * 100 + 1) :=
    Binary64.within_ofQuanta Nat.one_pos (by decide +kernel) (by omega)
  obtain ⟨rest, hrest, hrestEq, hrestSize⟩ := hdifference
  have hnonneg := Binary64.nonneg_of_ofQuanta (by omega) hrestEq
  have hwithin : (Binary64.ofQuanta (rest + (quantaPerOne : Int)) 1).Within (2 * 202 + 1) :=
    Binary64.within_ofQuanta Nat.one_pos (by decide +kernel) (by omega)
  have hparts : (Binary64.ofQuanta (rest + (quantaPerOne : Int)) 1).AtLeastPart (2 * 1) :=
    Binary64.atLeastPart_ofQuanta (by omega) Nat.one_pos (twoTo_pos 1074)
      (Binary64.isFinite_of_within hwithin)
  rw [← Binary64.finite_add_finite hrest hone, ← hrestEq] at hparts
  exact Binary64.ne_zero_of_atLeastPart hparts

end Health

end Score

/-- The bar of a whole percentage has a number of full blocks, however large the percentage is. -/
theorem Progress.exists_round_blocks (percent : Int) :
    ∃ n, (shown (.ofInt percent) / 100 * Binary64.ofNat blocks).round? = some n := by
  have hshown : (shown (.ofInt percent)).Within 100 := by
    obtain ⟨hzero, hzeroEq⟩ := Binary64.zero_eq
    obtain ⟨hhundred, hhundredEq⟩ := Binary64.hundred_eq
    have hnan : Binary64.ofInt percent ≠ .nan := by
      unfold Binary64.ofInt Binary64.ofRatio
      exact Binary64.ofQuanta_ne_nan _ _
    generalize Binary64.ofInt percent = x at hnan
    apply Binary64.within_of_between
    unfold shown
    rw [hzeroEq, hhundredEq]
    exact (Binary64.between_cut (by omega) hnan).2
  have hshare : (shown (.ofInt percent) / 100).Within (2 * (100 * 2) + 1) :=
    Binary64.within_div hshown
      (Binary64.atLeastPart_ofNat (n := 100) (by decide) (by decide +kernel)) (by decide +kernel)
  exact Binary64.round?_of_within (Binary64.within_mul hshare
    (Binary64.within_ofNat (n := blocks) (by decide +kernel)) (by decide +kernel))

namespace Period

/-- Nothing that a report of the period divides by on a date is zero: the number of its days, the
days that have passed, those that are left when any are, and what the spent share is put against. -/
structure Divides (p : Period) (today : Date) : Prop where
  total : p.totalDays ≠ 0
  elapsed : Binary64.ofInt (p.elapsed today) ≠ 0
  left : 0 < p.daysLeft today → Binary64.ofInt (p.daysLeft today) ≠ 0
  passed : 100 - Score.Health.percentLeft (.ofRatio (p.daysLeft today) p.totalDays.toNat) + 1 ≠ 0

/-- On no date does a report of a sound period divide by zero. -/
theorem Sound.divides {p : Period} (h : p.Sound) (today : Date) : p.Divides today := by
  obtain ⟨htotal, hlast⟩ := h.totalDays_mem
  obtain ⟨hfirst, helapsed⟩ := h.elapsed_mem today
  have hleft := h.daysLeft_mem today
  exact {
    total := by omega
    elapsed := Binary64.ofInt_ne_zero hfirst (Int.le_trans helapsed hlast)
    left := fun hsome => Binary64.ofInt_ne_zero hsome (Int.le_trans hleft.2 hlast)
    passed :=
      Score.Health.passed_ne_zero (Score.Health.within_share htotal hleft) (by decide +kernel) }

end Period

end BukuKas
