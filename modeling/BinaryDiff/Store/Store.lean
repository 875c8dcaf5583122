import BinaryDiff.Files.Host
import BinaryDiff.Log.Event
import BinaryDiff.Store.Schema

/-! # Stores

A store is a database opened for reading. Opening it makes sure that there is a file and that the
file is a database; after it was closed, every query fails. The schema check compares the names of
tables without regard to case, as the database does, but those of columns letter by letter. Nothing
guards the names against an error while they are fetched, and nothing at all against errors that are
none of the database library. What is below a store is the plain host unless another is given. -/

namespace BinaryDiff

/-- An opened database. -/
structure Store where
  /-- The path as it was given. -/
  path : String
  database : Database
  isOpen : Bool
deriving DecidableEq, Repr

namespace Store

/-- The name of the store's logger. -/
def logger : String := "vxsig.diff.store"

/-- An event of the store's log. -/
def event (name : String) (fields : List (String × LogValue)) : LogEvent :=
  ⟨logger, .debug, name, fields⟩

/-- The longest path that the database opens, in bytes. -/
def longestPath : Nat := 504

/-- The content of the regular file at a path, where a directory counts as no file. -/
def fileAt (around : Surroundings) (given : GivenPath) (host : Host := .plain) :
    Except Failure Content :=
  match host.refusal given.path with
  | some error => .error (.foreign error)
  | none =>
    match around.lookup given.path with
    | .found (.file content) => .ok content
    | .found .directory | .missing => .error (.diff (.notFound given.shown))
    | .nameTooLong => .error (.nameTooLong given.path.text)

/-- Opens the store at a path. -/
def openAt (around : Surroundings) (given : GivenPath) (host : Host := .plain) : Logged Store := do
  let content ← Logged.ofExcept (fileAt around given host)
  if longestPath < around.resolvedSize given.path then
    Logged.fail (.diff (.unreadable given.shown "unable to open database file"))
  else
    match host.read content with
    | .error error => Logged.fail (.ofError given.shown error)
    | .ok database => do
      Logged.log (event "store_opened" [("path", .text given.shown)])
      return ⟨given.shown, database, true⟩

/-- Closes the store; closing it again does nothing. -/
def close (store : Store) : List LogEvent × Store :=
  if store.isOpen then
    ([event "store_closed" [("path", .text store.path)]], { store with isOpen := false })
  else ([], store)

/-- Makes a query. -/
def execute (store : Store) (query : Query) (host : Host := .plain) :
    Except Failure (List FetchedRow) :=
  if store.isOpen then
    match host.answer store.database query with
    | .ok rows => .ok rows
    | .error error => .error (.ofError store.path error)
  else .error (.diff (.unreadable store.path "store is closed"))

/-- The values of rows that are fetched one after the other, where nothing expects an error. -/
def fetchAll : List FetchedRow → Except Failure (List (List Value))
  | [] => .ok []
  | .error error :: _ => .error (.foreign error)
  | .ok row :: rows => do return row :: (← fetchAll rows)

/-- The name in a row that describes a column. -/
def nameIn? : List Value → Option String
  | .text name :: _ => some name
  | _ => none

/-- The names of a table's columns in the order of their characters; none if there is no such
table. -/
def tableColumns (store : Store) (table : String) (host : Host := .plain) :
    Except Failure (List String) := do
  let rows ← fetchAll (← store.execute (.columnsOf table) host)
  return (rows.filterMap nameIn?).mergeSort (· ≤ ·)

/-- Checks that a table is there and has some columns. -/
def requireColumns (store : Store) (table : String) (columns : List String)
    (host : Host := .plain) : Except Failure Unit := do
  let present ← store.tableColumns table host
  if present.isEmpty then
    .error (.diff (.schema store.path table "table is missing" none none))
  else if columns.all fun column => present.contains column then .ok ()
  else
    .error (.diff (.schema store.path table "missing columns"
      (some (.text (", ".intercalate columns))) (some (.text (", ".intercalate present)))))

/-- Checks some tables in their order, up to the first that is not as it should be. -/
def requireTables (store : Store) (tables : List (String × List String))
    (host : Host := .plain) : Except Failure Unit :=
  match tables with
  | [] => .ok ()
  | (table, columns) :: tables =>
    match store.requireColumns table columns host with
    | .error failure => .error failure
    | .ok () => requireTables store tables host

/-- Checks that some tables have some columns, and says so. -/
def validate (store : Store) (required : List (String × List String)) (host : Host := .plain) :
    Logged Unit := do
  Logged.ofExcept (store.requireTables required host)
  Logged.log (event "schema_validated"
    [("path", .text store.path),
     ("tables", .data (.arr (((required.map Prod.fst).mergeSort (· ≤ ·)).map .str)))])

end Store
end BinaryDiff
