import BukuKas.Proofs.Roster
import BukuKas.Work

/-!
# Renumbering the ledger

A renumbering changes the numbers that are handed out from some number on, and keeps their order.
Rows carry numbers, as their own and as their place in the order of recording; chats carry one, that
of the last recording; and so do removals and some answers of the ledger.

Whatever is read from renumbered rows is what is read from the rows, with its numbers changed in the
same way.  Sums have no numbers, and are the same.

## Main results

* `applyAll_renumbered` : writes commute with a renumbering.
* `listExpenses_renumbered`, `listDay_renumbered` : lists keep their order.
-/

namespace BukuKas

open Calendar (Date)

/-- A change of the numbers from a base on that keeps their order. -/
structure Renumbering (base : Int) where
  number : Int → Int
  /-- The order is kept. -/
  mono : ∀ {a b : Int}, a < b → number a < number b
  /-- Numbers below the base stay. -/
  below : ∀ {a : Int}, a < base → number a = a

namespace Renumbering

variable {base : Int}

/-- No number is changed. -/
def same (base : Int) : Renumbering base where
  number n := n
  mono h := h
  below _ := rfl

/-- The numbers from a first one on are moved further up. -/
def lift (g : Renumbering base) (first step : Int) (hbase : base ≤ first) (hby : 0 ≤ step) :
    Renumbering base where
  number n := if n < first then g.number n else g.number n + step
  mono {a b} h := by
    have hnumber := g.mono h
    by_cases ha : a < first
    · by_cases hb : b < first
      · simpa [ha, hb] using hnumber
      · simp only [ha, hb, if_true, if_false]
        omega
    · have hb : ¬b < first := by omega
      simp only [ha, hb, if_false]
      omega
  below {a} h := by
    have hfirst : a < first := by omega
    simp only [hfirst, if_true]
    exact g.below h

theorem lift_of_lt {g : Renumbering base} {first step : Int} {hbase : base ≤ first} {hby : 0 ≤ step}
    {n : Int} (h : n < first) : (g.lift first step hbase hby).number n = g.number n :=
  if_pos h

theorem lift_of_le {g : Renumbering base} {first step : Int} {hbase : base ≤ first} {hby : 0 ≤ step}
    {n : Int} (h : first ≤ n) : (g.lift first step hbase hby).number n = g.number n + step :=
  if_neg (by omega)

variable (g : Renumbering base)

theorem lt_iff {a b : Int} : g.number a < g.number b ↔ a < b := by
  constructor
  · intro h
    by_cases hab : a < b
    · exact hab
    · by_cases heq : a = b
      · rw [heq] at h
        omega
      · have hba := g.mono (show b < a by omega)
        omega
  · exact g.mono

theorem le_iff {a b : Int} : g.number a ≤ g.number b ↔ a ≤ b := by
  have h := g.lt_iff (a := b) (b := a)
  omega

theorem eq_iff {a b : Int} : g.number a = g.number b ↔ a = b := by
  have h₁ := g.le_iff (a := a) (b := b)
  have h₂ := g.le_iff (a := b) (b := a)
  omega

/-! ## What carries numbers -/

/-- A row with its numbers changed. -/
def row (r : Row) : Row := { r with id := g.number r.id, created := g.number r.created }

/-- A chat with the number of its last recording changed. -/
def chat (c : Chat) : Chat := { c with last := c.last.map g.number }

/-- A write with its numbers changed. -/
def write : Write → Write
  | .insert r => .insert (g.row r)
  | .delete user id => .delete user (g.number id)

/-- A query with its numbers changed. -/
def query : Query → Query
  | .delete user id => .delete user (g.number id)
  | q => q

/-- An answer with its numbers changed. -/
def answer : (q : Query) → q.Answer → (g.query q).Answer
  | .insert _ _, (recording : Recording) => { recording with id := g.number recording.id }
  | .listTransactions _ _ _, (rows : List Row) => rows.map g.row
  | .listToday _ _, (rows : List Row) => rows.map g.row
  | .delete _ _, removed => removed
  | .findUser _, user => user
  | .sumExpenses _ _ _, sum => sum
  | .activePeriod _, period => period
  | .categoryTotals _ _ _, totals => totals
  | .dailyTotals _ _ _, totals => totals
  | .expenseAmounts _, amounts => amounts
  | .commit, done => done
  | .rollback, done => done

@[simp] theorem duty_query (q : Query) : (g.query q).duty = q.duty := by
  cases q <;> rfl

/-- Changes that agree on the numbers of a row change it alike. -/
theorem row_congr {g g' : Renumbering base} {r : Row} (hid : g.number r.id = g'.number r.id)
    (hcreated : g.number r.created = g'.number r.created) : g.row r = g'.row r := by
  unfold row
  rw [hid, hcreated]

theorem chat_congr {g g' : Renumbering base} {c : Chat}
    (h : ∀ id, c.last = some id → g.number id = g'.number id) : g.chat c = g'.chat c := by
  unfold chat
  cases hlast : c.last with
  | none => rfl
  | some id =>
      show { c with last := some (g.number id) } = { c with last := some (g'.number id) }
      rw [h id hlast]

theorem chat_same (base : Int) (c : Chat) : (same base).chat c = c := by
  unfold chat same
  cases c with
  | mk user email name alert last reminders => cases last <;> rfl

end Renumbering

/-! ## Writing and reading -/

section Reading

variable {base : Int} (g : Renumbering base)

theorem apply_renumbered (rows : List Row) (w : Write) :
    (g.write w).apply (rows.map g.row) = (w.apply rows).map g.row := by
  cases w with
  | insert r => simp [Renumbering.write, Write.apply]
  | delete user id =>
      simp only [Renumbering.write, Write.apply]
      rw [List.filter_map]
      congr 1
      apply List.filter_congr
      intro r _
      have hid : (g.number r.id == g.number id) = (r.id == id) := by
        rw [Bool.eq_iff_iff, beq_iff_eq, beq_iff_eq, g.eq_iff]
      simp only [Function.comp_apply, Renumbering.row, hid]

theorem applyAll_renumbered (rows : List Row) (writes : List Write) :
    Write.applyAll (rows.map g.row)
    (writes.map g.write) = (Write.applyAll rows writes).map g.row := by
  induction writes generalizing rows with
  | nil => rfl
  | cons w more ih =>
      show Write.applyAll ((g.write w).apply (rows.map g.row)) (more.map g.write) = _
      rw [apply_renumbered, ih]
      rfl

namespace Ledger

theorem expenses_renumbered (rows : List Row) (user : Int) (start stop : Date) :
    expenses (rows.map g.row) user start stop = (expenses rows user start stop).map g.row := by
  unfold expenses
  rw [List.filter_map]
  rfl

theorem cashOf_renumbered (rows : List Row) : cashOf (rows.map g.row) = cashOf rows := by
  unfold cashOf
  rw [List.map_map]
  rfl

theorem sumExpenses_renumbered (rows : List Row) (user : Int) (start stop : Date) :
    sumExpenses (rows.map g.row) user start stop = sumExpenses rows user start stop := by
  unfold sumExpenses
  rw [expenses_renumbered, cashOf_renumbered]

/-- A report lists rows by date and then by recording, and a renumbering keeps both. -/
theorem listExpenses_renumbered (rows : List Row) (user : Int) (start stop : Date) :
    listExpenses (rows.map g.row) user start stop =
      (listExpenses rows user start stop).map g.row := by
  unfold listExpenses
  rw [expenses_renumbered, List.map_mergeSort]
  intro a _ b _
  have hcreated : decide (g.number a.created ≤ g.number b.created) =
      decide (a.created ≤ b.created) :=
    decide_eq_decide.mpr g.le_iff
  unfold earlier
  show _ = (_ || (_ && decide (g.number a.created ≤ g.number b.created)))
  rw [hcreated]
  rfl

/-- The list of a day goes by recording and then by number, and a renumbering keeps both. -/
theorem listDay_renumbered (rows : List Row) (user : Int) (day : Date) :
    listDay (rows.map g.row) user day = (listDay rows user day).map g.row := by
  unfold listDay
  rw [expenses_renumbered, List.map_mergeSort]
  intro a _ b _
  have hcreated : (g.number a.created == g.number b.created) = (a.created == b.created) := by
    rw [Bool.eq_iff_iff, beq_iff_eq, beq_iff_eq, g.eq_iff]
  simp only [later, Renumbering.row, g.le_iff, g.lt_iff, hcreated]

/-- Sums per key are the same when the key carries no number. -/
theorem groupBy_renumbered {κ : Type} [DecidableEq κ] {key : Row → κ}
    (hkey : ∀ r, key (g.row r) = key r) (rows : List Row) :
    groupBy key (rows.map g.row) = groupBy key rows := by
  unfold groupBy
  rw [List.foldl_map]
  congr 1
  funext sums r
  rw [hkey]
  rfl

theorem categoryTotals_renumbered (rows : List Row) (user : Int) (start stop : Date) :
    categoryTotals (rows.map g.row) user start stop = categoryTotals rows user start stop := by
  unfold categoryTotals
  rw [expenses_renumbered, groupBy_renumbered g fun _ => rfl]

theorem dailyTotals_renumbered (rows : List Row) (user : Int) (start stop : Date) :
    dailyTotals (rows.map g.row) user start stop = dailyTotals rows user start stop := by
  unfold dailyTotals
  rw [expenses_renumbered, groupBy_renumbered g fun _ => rfl]

theorem amounts_renumbered (rows : List Row) (user : Int) :
    amounts (rows.map g.row) user = amounts rows user := by
  unfold amounts
  rw [List.filter_map, List.map_map]
  rfl

end Ledger

/-- A row of a user with a number is found under the changed number. -/
theorem any_renumbered (rows : List Row) (user id : Int) :
    ((rows.map g.row).any fun r => r.id == g.number id && r.user == user) =
      rows.any fun r => r.id == id && r.user == user := by
  rw [List.any_map]
  congr 1
  funext r
  have hid : (g.number r.id == g.number id) = (r.id == id) := by
    rw [Bool.eq_iff_iff, beq_iff_eq, beq_iff_eq, g.eq_iff]
  simp only [Function.comp_apply, Renumbering.row, hid]

end Reading

end BukuKas
