/-!
# Tables of a database

Tables with their columns, indexes, foreign keys and checks, and the changes that make and unmake
them.

## Main results

* `apply_dropTable_createTable` : dropping a new table takes back its creation.
-/

namespace BukuKas.Schema

/-- The types of columns. -/
inductive ColumnType where
  | integer
  | text
  | varchar (size : Nat)
  | numeric (digits places : Nat)
  | date
  | boolean
  | datetime
  deriving DecidableEq, Repr

/-- The name of a type in the dialect of the database. -/
def ColumnType.name : ColumnType → String
  | .integer => "INTEGER"
  | .text => "TEXT"
  | .varchar size => "VARCHAR(" ++ toString size ++ ")"
  | .numeric digits places => "NUMERIC(" ++ toString digits ++ ", " ++ toString places ++ ")"
  | .date => "DATE"
  | .boolean => "BOOLEAN"
  | .datetime => "DATETIME"

/-- A column. -/
structure Column where
  name : String
  type : ColumnType
  nullable : Bool := false
  /-- Whether the column is the primary key. -/
  isKey : Bool := false
  deriving DecidableEq, Repr

/-- An index over columns. -/
structure Index where
  name : String
  columns : List String
  unique : Bool := false
  deriving DecidableEq, Repr

/-- A reference to the rows of another table, which goes when the row there goes. -/
structure Reference where
  columns : List String
  table : String
  deriving DecidableEq, Repr

/-- What happens to a row whose reference is deleted. -/
def Reference.onDelete : String := "CASCADE"

/-- A table. -/
structure Table where
  name : String
  columns : List Column
  references : List Reference := []
  /-- The names of the checks on rows. -/
  checks : List String := []
  indexes : List Index := []
  deriving DecidableEq, Repr

/-- The indexes of a table in the order of their names. -/
def Table.indexesByName (t : Table) : List Index :=
  t.indexes.mergeSort fun a b => decide (a.name ≤ b.name)

/-- The checks of a table in order. -/
def Table.checksByName (t : Table) : List String :=
  t.checks.mergeSort fun a b => decide (a ≤ b)

/-- A change of the tables. -/
inductive Change where
  | createTable (table : Table)
  | createIndex (table : String) (index : Index)
  | dropIndex (table name : String)
  | dropTable (name : String)
  deriving DecidableEq, Repr

namespace Change

/-- Changes the table of that name. -/
def onTable (name : String) (f : Table → Table) (tables : List Table) : List Table :=
  tables.map fun t => if t.name = name then f t else t

/-- The tables after a change. -/
def apply (tables : List Table) : Change → List Table
  | createTable table => tables ++ [table]
  | createIndex table index =>
    onTable table (fun t => { t with indexes := t.indexes ++ [index] }) tables
  | dropIndex table name =>
    onTable table (fun t => { t with indexes := t.indexes.filter fun i => i.name != name }) tables
  | dropTable name => tables.filter fun t => t.name != name

/-- The tables after several changes. -/
def applyAll (tables : List Table) (changes : List Change) : List Table :=
  changes.foldl apply tables

theorem apply_dropTable_createTable {tables : List Table} {table : Table}
    (h : ∀ t ∈ tables, t.name ≠ table.name) :
    applyAll tables [createTable table, dropTable table.name] = tables := by
  simp only [applyAll, List.foldl_cons, List.foldl_nil, apply, List.filter_append]
  rw [List.filter_eq_self.2 (by simpa using h)]
  simp

end Change

end BukuKas.Schema
