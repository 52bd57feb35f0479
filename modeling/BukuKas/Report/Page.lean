import BukuKas.Fault
import BukuKas.Number.Significant

/-!
# Pages of a workbook

A page is filled from above, row by row.  An empty row takes up its place, too, but has no cells.
Cells are made bold one by one or by rows, and which row is the last one is read off the page: it
is the last that has cells.  The sheet that is written in the end goes down to that row, and is as
wide as its widest row; whatever has no cell there is empty.

How a text or a number becomes a cell is a rule of the library that writes the workbook: a cell
keeps a text up to its capacity and refuses one with a control character, its line ends are line
feeds, it keeps sixteen significant digits of a number, and nothing of an infinity.

## Main results

* `lastRow_append` : the last row is the one that was appended last, if it has cells.
* `width_appendAll`, `rows_appendAll` : what many appended rows come to.
-/

namespace BukuKas.Report

open Number (Binary64)

/-- What stands in a cell. -/
inductive Cell where
  | empty
  | text (s : String)
  /-- A number without a fraction, of at most sixteen digits. -/
  | whole (n : Int)
  | number (x : Binary64)
  deriving DecidableEq

/-- A sheet: its name, its rows, the cells in bold as pairs of column and row from one on, and the
widths of its columns. -/
structure Sheet where
  name : String
  rows : List (List Cell)
  bold : List (Nat × Nat)
  widths : List Nat
  deriving DecidableEq

namespace Cell

/-- The most characters that a cell holds. -/
def capacity : Nat := 32767

/-- Whether a character cannot stand in a cell: the control characters except the tabulator and the
two line ends. -/
def isIllegal (c : Char) : Bool :=
  c.toNat < 0x20 && c != '\t' && c != '\n' && c != '\r'

/-- The text with line feeds in place of its other line ends. -/
def feedLines : List Char → List Char
  | [] => []
  | '\r' :: '\n' :: cs => '\n' :: feedLines cs
  | '\r' :: cs => '\n' :: feedLines cs
  | c :: cs => c :: feedLines cs

/-- The cell with a text, as much of it as a cell holds. -/
def ofText (s : String) : Except Fault Cell :=
  let kept := s.toList.take capacity
  if kept.any isIllegal then .error (.illegalCellText (String.ofList kept))
  else if kept.isEmpty then .ok .empty
  else .ok (.text (String.ofList (feedLines kept)))

/-- The number of significant digits that a cell keeps. -/
def significantDigits : Nat := 16

/-- The cell with a number. -/
def ofNumber (x : Binary64) : Cell :=
  let kept := x.toSignificant significantDigits
  if kept.isFinite then
    match kept.toInt? with
    | some n => if n.natAbs < Number.tenTo significantDigits then .whole n else .number kept
    | none => .number kept
  else .empty

theorem feedLines_of_not_mem {cs : List Char} (h : '\r' ∉ cs) : feedLines cs = cs := by
  induction cs with
  | nil => rfl
  | cons c cs ih =>
    obtain ⟨hc, hcs⟩ := not_or.1 (mt List.mem_cons.2 h)
    rw [feedLines]
    · rw [ih hcs]
    · rintro _ rfl _
      exact hc rfl
    · rintro rfl
      exact hc rfl

theorem ofText_eq_ok_text {s : String} (h : ∀ c ∈ s.toList, isIllegal c = false)
    (hline : '\r' ∉ s.toList) (hlen : s.toList.length ≤ capacity) (hne : s.toList ≠ []) :
    ofText s = .ok (.text s) := by
  unfold ofText
  rw [List.take_of_length_le hlen]
  have hany : s.toList.any isIllegal = false := by
    rw [List.any_eq_false]
    intro c hc
    simp [h c hc]
  simp [hany, hne, feedLines_of_not_mem hline]

end Cell

/-- A sheet while it is filled: its rows down to the current one, and what was made bold. -/
structure Page where
  rows : List (List Cell) := []
  bold : List (Nat × Nat) := []

namespace Page

/-- A new page with a cell in its corner. -/
def ofCorner (cell : Cell) : Page := { rows := [[cell]] }

/-- The page with a further row. -/
def append (p : Page) (row : List Cell) : Page := { p with rows := p.rows ++ [row] }

/-- The page with further rows. -/
def appendAll (p : Page) (rows : List (List Cell)) : Page := rows.foldl append p

/-- The number of the last row that has cells. -/
def lastRow (p : Page) : Nat := (p.rows.reverse.dropWhile List.isEmpty).length

/-- The number of cells of the widest row. -/
def width (p : Page) : Nat := p.rows.foldl (fun most row => max most row.length) 0

/-- The page with a bold cell. -/
def boldCell (p : Page) (column row : Nat) : Page := { p with bold := p.bold ++ [(column, row)] }

/-- The page with a row in bold, as wide as the page is. -/
def boldRow (p : Page) (row : Nat) : Page :=
  { p with bold := p.bold ++ (List.range' 1 p.width).map fun column => (column, row) }

/-- A row with empty cells up to a width. -/
def fill (width : Nat) (row : List Cell) : List Cell :=
  row ++ List.replicate (width - row.length) .empty

/-- The sheet that is written. -/
def sheet (p : Page) (name : String) (widths : List Nat) : Sheet where
  name := name
  rows := (p.rows.take p.lastRow).map (fill p.width)
  bold := p.bold
  widths := widths

variable {p : Page} {row : List Cell} {rows : List (List Cell)}

@[simp] theorem rows_append : (p.append row).rows = p.rows ++ [row] := rfl

@[simp] theorem bold_append : (p.append row).bold = p.bold := rfl

@[simp] theorem width_append : (p.append row).width = max p.width row.length := by
  simp [width]

/-- A row with cells is the last one when it has been appended. -/
theorem lastRow_append (h : row ≠ []) : (p.append row).lastRow = p.rows.length + 1 := by
  cases row with
  | nil => exact absurd rfl h
  | cons cell cells => simp [lastRow]

/-- The last row of a page without empty rows at its end is still its last one when rows with cells
have been appended. -/
theorem lastRow_appendAll (hlast : p.lastRow = p.rows.length) (h : ∀ row ∈ rows, row ≠ []) :
    (p.appendAll rows).lastRow = p.rows.length + rows.length := by
  induction rows generalizing p with
  | nil => exact hlast
  | cons row rows ih =>
    obtain ⟨hrow, hrows⟩ := List.forall_mem_cons.1 h
    have hnext : (p.append row).lastRow = (p.append row).rows.length := by
      rw [lastRow_append hrow, rows_append, List.length_append, List.length_singleton]
    show ((p.append row).appendAll rows).lastRow = _
    rw [ih hnext hrows, rows_append, List.length_append, List.length_singleton, List.length_cons]
    omega

@[simp] theorem rows_appendAll : (p.appendAll rows).rows = p.rows ++ rows := by
  induction rows generalizing p with
  | nil => exact (List.append_nil _).symm
  | cons row rows ih =>
    show ((p.append row).appendAll rows).rows = _
    rw [ih, rows_append, List.append_assoc, List.singleton_append]

@[simp] theorem bold_appendAll : (p.appendAll rows).bold = p.bold := by
  induction rows generalizing p with
  | nil => rfl
  | cons row rows ih =>
    show ((p.append row).appendAll rows).bold = _
    rw [ih, bold_append]

/-- Rows that are not wider than the page leave its width as it is. -/
theorem width_appendAll (h : ∀ row ∈ rows, row.length ≤ p.width) :
    (p.appendAll rows).width = p.width := by
  induction rows generalizing p with
  | nil => rfl
  | cons row rows ih =>
    obtain ⟨hrow, hrows⟩ := List.forall_mem_cons.1 h
    have hsame : (p.append row).width = p.width := by
      rw [width_append, Nat.max_eq_left hrow]
    show ((p.append row).appendAll rows).width = _
    rw [ih fun other hother => hsame ▸ hrows other hother, hsame]

/-- Rows of a width are filled up already. -/
theorem map_fill {width : Nat} (h : ∀ row ∈ rows, row.length = width) :
    rows.map (fill width) = rows := by
  refine (List.map_congr_left fun row hrow => ?_).trans (List.map_id rows)
  rw [fill, h row hrow, Nat.sub_self]
  exact List.append_nil row

end Page

end BukuKas.Report
