import BukuKas.Proofs.Report.Tally
import BukuKas.Report.Workbook

/-!
# What a workbook shows

The places of the rows of a workbook hang on the number of its expenses alone.  Texts without
control characters stand in their cells as they are, so each expense can be read off its row, and
the second sheet is the ranking of the categories.

## Main results

* `Workbook.lists_transactions` : the places of the first sheet.
* `Workbook.build_of_holds` : both sheets of a workbook.
-/

namespace BukuKas.Report

open Number (Binary64)

variable {title : String} {entries : List Entry}

namespace Cell

/-- A text that a cell holds as it is: neither empty nor too long, and without control
characters. -/
def Holds (s : String) : Prop :=
  s.toList ≠ [] ∧ s.toList.length ≤ capacity ∧ ∀ c ∈ s.toList, 0x20 ≤ c.toNat

instance (s : String) : Decidable (Holds s) :=
  -- the last part is tested on the characters of the text, not on all there are
  haveI : Decidable (∀ c ∈ s.toList, 0x20 ≤ c.toNat) := List.decidableBAll _ _
  inferInstanceAs (Decidable (_ ∧ _ ∧ _))

theorem ofText_of_holds {s : String} (h : Holds s) : ofText s = .ok (.text s) := by
  obtain ⟨hne, hlen, hplain⟩ := h
  refine ofText_eq_ok_text (fun c hc => ?_) (fun hline => ?_) hlen hne
  · have hnot : ¬c.toNat < 0x20 := Nat.not_lt.mpr (hplain c hc)
    simp [isIllegal, hnot]
  · exact absurd (hplain _ hline) (by decide)

end Cell

/-- The row of a sheet with a number, the first one being row 1. -/
def Sheet.row? (s : Sheet) (n : Nat) : Option (List Cell) :=
  s.rows[n - 1]?

/-- The cells of an expense: its date, its name, its category, and its amount to two decimals. -/
def entryCells (e : Entry) : List Cell :=
  [.text e.date.text, .text e.item, .text e.category, Cell.ofNumber e.amount.toTwoPlaces]

/-- The sheet lists entries one by one below a title and a header, and their sum with a row
between. -/
structure Lists (title : String) (entries : List Entry) (total : Binary64) (s : Sheet) : Prop where
  name : s.name = "Transaksi"
  length : s.rows.length = entries.length + 5
  title : s.row? 1 = some [.text title, .empty, .empty, .empty]
  above : s.row? 2 = some [.empty, .empty, .empty, .empty]
  header : s.row? 3 = some [.text "Tanggal", .text "Nama", .text "Kategori", .text "Nominal"]
  /-- Counted from one, the expense with a number stands three rows below that number. -/
  entry : ∀ (i : Nat) (e : Entry), entries[i]? = some e → s.row? (i + 1 + 3) = some (entryCells e)
  below : s.row? (entries.length + 4) = some [.empty, .empty, .empty, .empty]
  total : s.row? (entries.length + 5) =
    some [.empty, .empty, .text "Total", Cell.ofNumber total.toTwoPlaces]
  /-- The title, the header and the word before the sum are in bold, and nothing else. -/
  bold : ∀ column row, (column, row) ∈ s.bold ↔
    (column = 1 ∧ row = 1) ∨ ((1 ≤ column ∧ column ≤ 4) ∧ row = 3) ∨
      (column = 3 ∧ row = entries.length + 5)

/-- The cells of a sum: its name, and the sum to two decimals. -/
def sumCells (sum : String × Binary64) : List Cell :=
  [.text sum.1, Cell.ofNumber sum.2.toTwoPlaces]

/-- The sheet shows sums below a header, one row for each of them in their order. -/
structure ShowsSums (sums : Tally) (s : Sheet) : Prop where
  name : s.name = "Ringkasan"
  rows : s.rows = [.text "Kategori", .text "Total"] :: sums.map sumCells

namespace Workbook

/-! ## The parts of a workbook -/

theorem entryRows_of_holds (h : ∀ e ∈ entries, Cell.Holds e.item ∧ Cell.Holds e.category) :
    entryRows entries = .ok (entries.map entryCells) := by
  induction entries with
  | nil => rfl
  | cons e entries ih =>
      obtain ⟨hitem, hcategory⟩ := h e List.mem_cons_self
      have hrow : entryRow e = .ok (entryCells e) := by
        rw [entryRow, Cell.ofText_of_holds hitem, Cell.ofText_of_holds hcategory]
        rfl
      rw [entryRows, hrow]
      dsimp only
      rw [ih fun other hother => h other (List.mem_cons_of_mem e hother)]
      rfl

theorem sumRows_of_holds {sums : Tally} (h : ∀ sum ∈ sums, Cell.Holds sum.1) :
    sumRows sums = .ok (sums.map sumCells) := by
  induction sums with
  | nil => rfl
  | cons sum sums ih =>
      rw [sumRows, sumRow, Cell.ofText_of_holds (h sum List.mem_cons_self)]
      dsimp only
      rw [ih fun other hother => h other (List.mem_cons_of_mem sum hother)]
      rfl

/-- The page with the expenses is as wide as its header. -/
theorem width_listing (title : Cell) {rows : List (List Cell)} (h : ∀ row ∈ rows, row.length = 4)
    (total : Binary64) : (listing title rows total).width = 4 := by
  let headed := ((((Page.ofCorner title).boldCell 1 1).append []).append header).boldRow 3
  have hall : (headed.appendAll rows).width = 4 :=
    Page.width_appendAll fun row hrow => Nat.le_of_eq (h row hrow)
  show (((headed.appendAll rows).append []).append _).width = 4
  rw [Page.width_append, Page.width_append, hall]
  rfl

/-- The rows of the first sheet, those of the expenses between three others and two. -/
theorem rows_transactions (title : Cell) {rows : List (List Cell)}
    (h : ∀ row ∈ rows, row.length = 4) (total : Binary64) :
    (transactions title rows total).rows =
      [title, .empty, .empty, .empty] :: List.replicate 4 .empty :: header ::
        (rows ++ [List.replicate 4 .empty,
          [.empty, .empty, .text "Total", Cell.ofAmount total]]) := by
  show ((listing title rows total).rows.take (listing title rows total).lastRow).map
    (Page.fill (listing title rows total).width) = _
  rw [width_listing title h, lastRow_listing, rows_listing, List.take_of_length_le (by simp)]
  simp only [List.map_cons, List.map_append, Page.map_fill h]
  rfl

/-- The cells of the first sheet that are bold: the title, the header, and one in the last row. -/
theorem bold_transactions (title : Cell) (rows : List (List Cell)) (total : Binary64) :
    (transactions title rows total).bold =
      [(1, 1), (1, 3), (2, 3), (3, 3), (4, 3), (3, rows.length + 5)] := by
  show (listing title rows total).bold ++ [(3, (listing title rows total).lastRow)] = _
  rw [lastRow_listing]
  have hbold : (listing title rows total).bold = [(1, 1), (1, 3), (2, 3), (3, 3), (4, 3)] := by
    simp only [listing, Page.bold_append, Page.bold_appendAll]
    rfl
  rw [hbold]
  rfl

/-- The rows of the second sheet, those of the sums below the header. -/
theorem rows_summary {rows : List (List Cell)} (h : ∀ row ∈ rows, row.length = 2) :
    (summary rows).rows = [.text "Kategori", .text "Total"] :: rows := by
  let headed := (Page.append {} [.text "Kategori", .text "Total"]).boldRow 1
  have hwidth : (headed.appendAll rows).width = 2 :=
    Page.width_appendAll fun row hrow => Nat.le_of_eq (h row hrow)
  have hlast : (headed.appendAll rows).lastRow = 1 + rows.length :=
    Page.lastRow_appendAll rfl fun row hrow =>
      List.ne_nil_of_length_pos (by rw [h row hrow]; decide)
  show ((headed.appendAll rows).rows.take (headed.appendAll rows).lastRow).map
    (Page.fill (headed.appendAll rows).width) = _
  have hrows : (headed.appendAll rows).rows =
      [.text "Kategori", .text "Total"] :: rows := Page.rows_appendAll
  rw [hwidth, hlast, hrows, List.take_of_length_le (by rw [List.length_cons]; omega),
    List.map_cons, Page.map_fill h]
  rfl

/-- The page lists all expenses, in the rows in which they were appended. -/
theorem lists_transactions (title : String) (entries : List Entry) (total : Binary64) :
    Lists title entries total (transactions (.text title) (entries.map entryCells) total) := by
  have hwide : ∀ row ∈ entries.map entryCells, row.length = 4 := by
    intro row hrow
    obtain ⟨e, -, rfl⟩ := List.mem_map.mp hrow
    rfl
  have hrows := rows_transactions (.text title) hwide total
  have hrow? (n : Nat) : (transactions (.text title) (entries.map entryCells) total).row? (n + 4) =
      (entries.map entryCells ++ [List.replicate 4 .empty,
        [.empty, .empty, .text "Total", Cell.ofAmount total]])[n]? := by
    rw [Sheet.row?, hrows]
    rfl
  constructor
  case name => rfl
  case length => rw [length_rows_transactions, List.length_map]
  case title | above | header =>
    rw [Sheet.row?, hrows]
    rfl
  case entry =>
    intro i e h
    have hrow : (entries.map entryCells)[i]? = some (entryCells e) := by
      rw [List.getElem?_map, h]
      rfl
    rw [hrow?, List.getElem?_append_left (List.getElem?_eq_some_iff.mp hrow).1, hrow]
  case below =>
    rw [hrow?, List.getElem?_append_right (by simp)]
    simp
  case total =>
    rw [show entries.length + 5 = entries.length + 1 + 4 from rfl, hrow?,
      List.getElem?_append_right (by simp)]
    simp [Cell.ofAmount]
  case bold =>
    intro column row
    rw [bold_transactions]
    simp only [List.mem_cons, List.not_mem_nil, Prod.mk.injEq, List.length_map, or_false]
    omega

/-- The workbook of entries whose texts can stand in cells lists them all, with the sum of the sums
of their categories, and shows their ranking. -/
theorem build_of_holds (htitle : Cell.Holds title)
    (htexts : ∀ e ∈ entries, Cell.Holds e.item ∧ Cell.Holds e.category) :
    ∃ first second, build title entries = .ok [first, second] ∧
      Lists title entries (Binary64.sum ((categoriesOf entries).map (spentOn entries))) first ∧
      ShowsSums (Tally.rank (Tally.ofEntries entries)) second := by
  have hnames : ∀ sum ∈ (Tally.ofEntries entries).rank, Cell.Holds sum.1 := by
    intro sum hsum
    have hmem := (Tally.rank_perm _).mem_iff.mp hsum
    rw [Tally.ofEntries_eq] at hmem
    obtain ⟨name, hname, rfl⟩ := List.mem_map.mp hmem
    obtain ⟨e, he, rfl⟩ := mem_categoriesOf.mp hname
    exact (htexts e he).2
  rw [← Tally.total_ofEntries]
  have hsums : ∀ row ∈ (Tally.ofEntries entries).rank.map sumCells, row.length = 2 := by
    intro row hrow
    obtain ⟨sum, -, rfl⟩ := List.mem_map.mp hrow
    rfl
  refine ⟨_, summary _, ?_, lists_transactions title entries _, rfl, rows_summary hsums⟩
  unfold build
  rw [Cell.ofText_of_holds htitle]
  dsimp only
  rw [entryRows_of_holds htexts]
  dsimp only
  rw [sumRows_of_holds hnames]

end Workbook

end BukuKas.Report
