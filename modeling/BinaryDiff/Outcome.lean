import BinaryDiff.Granularity

/-! # The outcome of a parse

A successful parse reports how many matches each table delivered and, when it was asked to, what
the store says about the two binaries. -/

namespace BinaryDiff

/-- What a store records about one binary. -/
structure BinaryMetadata where
  name : String
  originalName : String
  contentHash : String
deriving DecidableEq, Repr

/-- The records of the two binaries. -/
structure MetadataPair where
  primary : BinaryMetadata
  secondary : BinaryMetadata
deriving DecidableEq, Repr

/-- The outcome of a successful parse. -/
structure ParseResult where
  path : String
  functionMatches : Int
  basicBlockMatches : Int
  instructionMatches : Int
  metadata : Option MetadataPair
deriving DecidableEq, Repr

namespace ParseResult

/-- The number of matches at a granularity. -/
def count (result : ParseResult) : Granularity → Int
  | .function => result.functionMatches
  | .basicBlock => result.basicBlockMatches
  | .instruction => result.instructionMatches

/-- The number of matches at all granularities. -/
def total (result : ParseResult) : Int :=
  result.functionMatches + result.basicBlockMatches + result.instructionMatches

end ParseResult
end BinaryDiff
