import BinaryDiff.Files.Database
import BinaryDiff.Granularity

/-! # What a diff result contains

The tables and columns that the reader relies on, and the queries that it makes of them. -/

namespace BinaryDiff
namespace Schema

/-- The two columns of a match table. -/
def matchColumns : List String := ["address1", "address2"]

/-- The table about the two binaries. -/
def metadataTable : String := "file"

/-- The column whose order tells the primary binary from the secondary one. -/
def orderColumn : String := "id"

/-- The columns with the names and the hash of a binary. -/
def recordColumns : List String := ["filename", "exefilename", "hash"]

/-- The columns of the table about the two binaries. -/
def metadataColumns : List String := orderColumn :: recordColumns

/-- The tables that every diff result has, with the columns that they have. -/
def requiredTables : List (String × List String) :=
  Granularity.all.map fun granularity => (granularity.table, matchColumns)

end Schema

namespace Query

/-- The addresses of the matches at a granularity. -/
def matchesOf (granularity : Granularity) : Query :=
  .select granularity.table Schema.matchColumns none

/-- The records of the two binaries. -/
def metadata : Query :=
  .select Schema.metadataTable Schema.recordColumns (some Schema.orderColumn)

end Query
end BinaryDiff
