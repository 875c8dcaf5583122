import BinaryDiff.Outcome
import BinaryDiff.Store.Store

/-! # The records of the two binaries

A store has one row for each of the two binaries. The one with the lower `id` is about the primary
binary. All rows are fetched, without a guard against errors, before their number is looked at, and
their number before what they hold. -/

namespace BinaryDiff
namespace Metadata

/-- The name of the logger. -/
def logger : String := "vxsig.diff.metadata"

/-- The complaint about a value that is no text. -/
def notText (path : String) (ordinal : Nat) (column : String) (value : Value) : Failure :=
  .diff (.schema path Schema.metadataTable s!"row {ordinal}: {column} is not text"
    (some (.text "TEXT")) (some (.text value.typeName)))

/-- The texts in a row, given the columns they are from. -/
def texts (path : String) (ordinal : Nat) : List (String × Value) → Except Failure (List String)
  | [] => .ok []
  | (_, .text text) :: rest => do return text :: (← texts path ordinal rest)
  | (column, value) :: _ => .error (notText path ordinal column value)

/-- The record in a row. -/
def readRecord (path : String) (ordinal : Nat) (row : List Value) :
    Except Failure BinaryMetadata := do
  let found ← texts path ordinal (Schema.recordColumns.zip row)
  return ⟨found.getD 0 "", found.getD 1 "", found.getD 2 ""⟩

/-- The pair of records in the rows of a store. -/
def readPair (path : String) : List (List Value) → Except Failure MetadataPair
  | [first, second] => do
    let primary ← readRecord path 0 first
    let secondary ← readRecord path 1 second
    return ⟨primary, secondary⟩
  | rows => .error (.diff (.schema path Schema.metadataTable "wrong number of metadata rows"
      (some (.number 2)) (some (.number rows.length))))

/-- Reads the records of the two binaries. -/
def extract (store : Store) (host : Host := .plain) : Logged MetadataPair := do
  Logged.ofExcept (store.requireColumns Schema.metadataTable Schema.metadataColumns host)
  let fetched ← Logged.ofExcept (store.execute .metadata host)
  let rows ← Logged.ofExcept (Store.fetchAll fetched)
  let pair ← Logged.ofExcept (readPair store.path rows)
  Logged.log ⟨logger, .debug, "metadata_extracted",
    [("primary", .text pair.primary.name), ("secondary", .text pair.secondary.name)]⟩
  return pair

end Metadata
end BinaryDiff
