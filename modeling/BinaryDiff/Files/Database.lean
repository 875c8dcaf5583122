import BinaryDiff.Files.Cell
import BinaryDiff.Files.SystemTable

/-! # Databases

A database is a list of tables, a table a list of columns and rows of cells in storage order.
Queries resolve the names of tables and columns without regard to the case of ASCII letters, while
introspection returns the names as they were written. A query either cannot be prepared, for want
of a table or column, or yields its rows one after the other; a row that holds a text that is not
UTF-8 fails when it is fetched, whatever its other cells are. The names of columns are UTF-8, every
page can be read, and there are no indexes, views or computed columns; what a file may do that has
or lacks these is up to its host. -/

namespace BinaryDiff

/-- A table. -/
structure Table where
  name : String
  columns : List String
  rows : List (List Cell)
deriving DecidableEq, Repr

/-- The contents of a database. -/
structure Database where
  tables : List Table
deriving DecidableEq, Repr

/-- A row as a query delivers it: its values, or the error of fetching it. -/
abbrev FetchedRow := Except ForeignError (List Value)

/-- A query. -/
inductive Query
  /-- The names of the columns of a table. -/
  | columnsOf (table : String)
  /-- Some columns of a table, in storage order or in the order of a column. -/
  | select (table : String) (columns : List String) (key : Option String)
deriving DecidableEq, Repr

namespace Table

/-- The place of the column that a query knows under a name. -/
def place? (table : Table) (column : String) : Option Nat :=
  table.columns.findIdx? (sameName column)

/-- The cell of a row at a place; a row may be shorter than its table is wide. -/
def cellAt (row : List Cell) (place : Nat) : Cell :=
  row.getD place .null

end Table

namespace Database

/-- The table that a query knows under a name. -/
def table? (database : Database) (name : String) : Option Table :=
  database.tables.find? fun table => sameName name table.name

/-- The part of a name that introspection looks at: what is before the first zero character. -/
def readName (name : String) : String :=
  String.ofList (name.toList.takeWhile (· != Char.ofNat 0))

/-- The column names of a table as they were written; none if there is no such table. The tables
that were made come before the system's own. -/
def columnNames (database : Database) (name : String) : List String :=
  match database.table? (readName name) with
  | some table => table.columns
  | none => SystemTables.columnNames (readName name)

/-- A row of a table restricted to some places, as it is fetched. -/
def fetchRow (table : Table) (places : List Nat) (row : List Cell) : FetchedRow :=
  places.mapM fun place => (Table.cellAt row place).fetch (table.columns.getD place "")

/-- The places of some columns in a table, or the complaint about the first that it lacks. -/
def places (table : Table) (columns : List String) : Except String (List Nat) :=
  columns.mapM fun column =>
    match table.place? column with
    | some place => .ok place
    | none => .error s!"no such column: {column}"

/-- The rows of a table in storage order, restricted to some columns. -/
def select (database : Database) (name : String) (columns : List String) :
    Except String (List FetchedRow) :=
  match database.table? name with
  | none => .error s!"no such table: {name}"
  | some table => do
    let places ← places table columns
    return table.rows.map (fetchRow table places)

/-- The rows of a table in the order of one of its columns, ties in storage order. -/
def selectOrdered (database : Database) (name : String) (columns : List String) (key : String) :
    Except String (List FetchedRow) :=
  match database.table? name with
  | none => .error s!"no such table: {name}"
  | some table => do
    let places ← places table columns
    match table.place? key with
    | none => .error s!"no such column: {key}"
    | some place =>
      let rows := table.rows.mergeSort fun a b =>
        (Table.cellAt a place).upTo (Table.cellAt b place)
      return rows.map (fetchRow table places)

/-- The rows that a query yields, or the reason why it is refused. -/
def answer (database : Database) : Query → Except String (List FetchedRow)
  | .columnsOf table => .ok ((database.columnNames table).map fun name => .ok [.text name])
  | .select table columns none => database.select table columns
  | .select table columns (some key) => database.selectOrdered table columns key

end Database
end BinaryDiff
