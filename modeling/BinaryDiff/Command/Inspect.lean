import BinaryDiff.Command.Arguments
import BinaryDiff.Command.Run
import BinaryDiff.Config.Settings
import BinaryDiff.Delivery.Parse
import BinaryDiff.Report.Summary

/-! # The command `inspect`

Counts the matches of a diff result and shows the counts together with the records of the two
binaries. -/

namespace BinaryDiff

/-- An option of `inspect`. -/
inductive InspectOption
  | metadata (wanted : Bool)
  | json
  | help
deriving DecidableEq, Repr

/-- What is asked of `inspect`. -/
structure InspectRequest where
  path : Path
  metadataRequested : Bool
  /-- Whether the output is JSON rather than tables. -/
  json : Bool
deriving DecidableEq, Repr

namespace InspectRequest

/-- The spellings of the options. -/
def options : OptionTable InspectOption :=
  [("--metadata", .flag (.metadata true)), ("--no-metadata", .flag (.metadata false)),
   ("--json", .flag .json), ("--help", .flag .help)]

/-- What an option says about metadata. -/
def metadataWanted? : InspectOption → Option Bool
  | .metadata wanted => some wanted
  | _ => none

/-- What the arguments ask for; none if they ask for help. Metadata is wanted unless the last word
on it is against it. -/
def read (words : List String) : Except UsageError (Option InspectRequest) := do
  let arguments ← Arguments.read options true words
  if arguments.options.contains .help then return none
  let path ← arguments.path
  let metadata := (arguments.last? metadataWanted?).getD true
  return some ⟨path, metadata, arguments.options.contains .json⟩

/-- The parse behind the command: all three sinks count. -/
def parse (around : Surroundings) (reader : ReaderSettings) (request : InspectRequest) :
    Report Nat :=
  BinaryDiff.parse around
    ⟨.ofPath request.path, request.metadataRequested, reader.addressWidth⟩ (fun _ => countMatch) 0

/-- The row of a count. -/
def countRow (name : String) (count : Int) : List (String × Json) :=
  [("granularity", .str name), ("matches", .int count)]

/-- The table of the counts. -/
def countTable (console : Console) (request : InspectRequest) (result : ParseResult) :
    Except MarkupError String :=
  Display.table console
    [countRow "function" result.functionMatches, countRow "basic block" result.basicBlockMatches,
     countRow "instruction" result.instructionMatches]
    (some request.path.text) []

/-- The table of the two binaries. -/
def binariesTable (console : Console) (pair : MetadataPair) : Except MarkupError String :=
  Display.table console (Summary.records pair) (some "Binaries") []

/-- What is printed about a result. -/
def output (console : Console) (request : InspectRequest) (result : ParseResult) :
    List (Except MarkupError String) :=
  if request.json then [.ok (Display.json (Summary.json result))]
  else request.countTable console result :: (result.metadata.map (binariesTable console)).toList

/-- Carries out the command. -/
def run (around : Surroundings) (reader : ReaderSettings) (console : Console)
    (request : InspectRequest) : Run :=
  let report := request.parse around reader
  match report.outcome with
  | .error failure => .failed console report.events failure
  | .ok result => .printAll report.events (request.output console result)

end InspectRequest
end BinaryDiff
