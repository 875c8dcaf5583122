import BinaryDiff.Json.Value
import BinaryDiff.Outcome

/-! # The report on a parse

The outcome of a parse as data: the path, the three counts, and the records of the two binaries if
they were read. -/

namespace BinaryDiff
namespace Summary

/-- One binary's record, with the part that the binary plays. -/
def record (role : String) (metadata : BinaryMetadata) : List (String × Json) :=
  [("role", .str role), ("name", .str metadata.name),
   ("original_name", .str metadata.originalName), ("hash", .str metadata.contentHash)]

/-- The records of the two binaries. -/
def records (pair : MetadataPair) : List (List (String × Json)) :=
  [record "primary" pair.primary, record "secondary" pair.secondary]

/-- The three counts. -/
def counts (result : ParseResult) : Json :=
  .obj [("function", .int result.functionMatches), ("basic_block", .int result.basicBlockMatches),
        ("instruction", .int result.instructionMatches)]

/-- The whole outcome. -/
def json (result : ParseResult) : Json :=
  .obj ([("path", .str result.path), ("matches", counts result)]
    ++ match result.metadata with
      | some pair => [("metadata", .arr ((records pair).map .obj))]
      | none => [])

end Summary
end BinaryDiff
