import BukuKas.Report.Tally

/-!
# The chart of spending

A pie with a slice for each category on which something was spent, or a remark when there is none.
-/

namespace BukuKas.Report

open Number (Binary64)

/-- A pie chart. -/
structure Chart where
  /-- The title above it. -/
  title : String
  /-- The slices with their names, all of them positive. -/
  slices : Tally
  deriving DecidableEq

namespace Chart

/-- The chart of sums: only the positive ones have a slice. -/
def ofTally (title : String) (sums : Tally) : Chart :=
  ⟨title, sums.filter fun sum => decide (0 < sum.2)⟩

/-- What stands in place of the pie when there is no slice. -/
def remark? (c : Chart) : Option String :=
  if c.slices.isEmpty then some "Belum ada data" else none

theorem slices_pos {title : String} {sums : Tally} {slice : String × Binary64}
    (h : slice ∈ (ofTally title sums).slices) : 0 < slice.2 := by
  simp only [ofTally, List.mem_filter, decide_eq_true_eq] at h
  exact h.2

end Chart

end BukuKas.Report
