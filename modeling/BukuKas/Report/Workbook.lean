import BukuKas.Report.Page
import BukuKas.Report.Tally

/-!
# The workbook of a recap

Two sheets: the expenses one by one with their sum, and the sums per category, the largest first.
Amounts are rounded to two decimals where they are written; sums are computed before that.  The
word before the sum is made bold in the last row, wherever that is.

## Main results

* `length_rows_transactions` : the first sheet has a row for each expense and five more.
-/

namespace BukuKas.Report

open Number (Binary64)

/-- The cell with an amount. -/
def Cell.ofAmount (x : Binary64) : Cell := ofNumber x.toTwoPlaces

namespace Workbook

/-- The row of an expense. -/
def entryRow (e : Entry) : Except Fault (List Cell) :=
  match Cell.ofText e.item, Cell.ofText e.category with
  | .ok item, .ok category => .ok [.text e.date.text, item, category, Cell.ofAmount e.amount]
  | .error fault, _ => .error fault
  | _, .error fault => .error fault

/-- The rows of expenses, or the first fault. -/
def entryRows : List Entry → Except Fault (List (List Cell))
  | [] => .ok []
  | e :: es =>
    match entryRow e with
    | .error fault => .error fault
    | .ok row =>
      match entryRows es with
      | .error fault => .error fault
      | .ok rows => .ok (row :: rows)

/-- The names of the columns of the first sheet. -/
def header : List Cell := [.text "Tanggal", .text "Nama", .text "Kategori", .text "Nominal"]

/-- The page with the expenses below a title and a header, and their sum behind an empty row. -/
def listing (title : Cell) (rows : List (List Cell)) (total : Binary64) : Page :=
  let titled := (Page.ofCorner title).boldCell 1 1
  let headed := ((titled.append []).append header).boldRow 3
  ((headed.appendAll rows).append []).append
    [.empty, .empty, .text "Total", Cell.ofAmount total]

/-- The sheet with the expenses. -/
def transactions (title : Cell) (rows : List (List Cell)) (total : Binary64) : Sheet :=
  let page := listing title rows total
  (page.boldCell 3 page.lastRow).sheet "Transaksi" [12, 30, 20, 15]

/-- The row of a sum. -/
def sumRow (sum : String × Binary64) : Except Fault (List Cell) :=
  match Cell.ofText sum.1 with
  | .ok name => .ok [name, Cell.ofAmount sum.2]
  | .error fault => .error fault

/-- The rows of sums, or the first fault. -/
def sumRows : Tally → Except Fault (List (List Cell))
  | [] => .ok []
  | sum :: sums =>
    match sumRow sum with
    | .error fault => .error fault
    | .ok row =>
      match sumRows sums with
      | .error fault => .error fault
      | .ok rows => .ok (row :: rows)

/-- The sheet with the sums. -/
def summary (rows : List (List Cell)) : Sheet :=
  let headed := (Page.append {} [.text "Kategori", .text "Total"]).boldRow 1
  (headed.appendAll rows).sheet "Ringkasan" [20, 15]

/-- The two sheets of a workbook, or the first text that cannot stand in one. -/
def build (title : String) (entries : List Entry) : Except Fault (List Sheet) :=
  match Cell.ofText title with
  | .error fault => .error fault
  | .ok titleCell =>
    match entryRows entries with
    | .error fault => .error fault
    | .ok rows =>
      let tally := Tally.ofEntries entries
      match sumRows tally.rank with
      | .error fault => .error fault
      | .ok sums => .ok [transactions titleCell rows tally.total, summary sums]

theorem rows_listing (title : Cell) (rows : List (List Cell)) (total : Binary64) :
    (listing title rows total).rows = [title] :: [] :: header ::
      (rows ++ [[], [.empty, .empty, .text "Total", Cell.ofAmount total]]) := by
  simp [listing, Page.boldRow, Page.boldCell, Page.ofCorner]

/-- The last row is that of the sum. -/
theorem lastRow_listing (title : Cell) (rows : List (List Cell)) (total : Binary64) :
    (listing title rows total).lastRow = rows.length + 5 := by
  rw [listing, Page.lastRow_append (List.cons_ne_nil _ _)]
  simp [Page.boldRow, Page.boldCell, Page.ofCorner]

/-- The first sheet has a row for each expense and five more. -/
@[simp] theorem length_rows_transactions (title : Cell) (rows : List (List Cell))
    (total : Binary64) : (transactions title rows total).rows.length = rows.length + 5 := by
  show (((listing title rows total).rows.take (listing title rows total).lastRow).map _).length = _
  rw [lastRow_listing, rows_listing]
  simp

end Workbook

end BukuKas.Report
