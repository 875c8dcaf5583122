import BinaryDiff.Config.Load
import BinaryDiff.Delivery.Parse
import BinaryDiff.Log.Setup
import BinaryDiff.Number.Natural

/-! # The digest of a diff result

A digest shows at a glance what two binaries have in common: their names, the numbers of matches,
the first function matches, and the pages of the secondary binary with the most basic-block
matches. It is made in a single parse, in which function matches are collected, basic-block matches
are tallied by page, and instruction matches are counted. -/

namespace BinaryDiff

/-- How often each page occurs, in the order of first appearance. -/
abbrev Tally := List (Int × Nat)

namespace Tally

/-- The number of a page, for an address in it. -/
def page (address : Int) : Int := address / (twoTo 12 : Int)

/-- The first address of a page. -/
def base (page : Int) : Int := page * (twoTo 12 : Int)

/-- Counts a page once more. -/
def add (page : Int) : Tally → Tally
  | [] => [(page, 1)]
  | (other, count) :: rest =>
    if other = page then (other, count + 1) :: rest else (other, count) :: add page rest

/-- The most frequent pages, ties in the order of first appearance. -/
def mostCommon (limit : Nat) (tally : Tally) : Tally :=
  (tally.mergeSort fun a b => b.2 ≤ a.2).take limit

end Tally

namespace Digest

/-- What the three sinks of a digest have gathered. -/
structure Gathered where
  functions : Collector
  pages : Tally
  instructions : Nat
deriving DecidableEq, Repr

/-- Before the first match. -/
def nothing : Gathered := ⟨⟨none, []⟩, [], 0⟩

/-- The sinks of a digest. -/
def sink : Granularity → Sink Gathered
  | .function => fun gathered pair =>
    let (functions, complaint) := gathered.functions.accept pair
    ({ gathered with functions := functions }, complaint)
  | .basicBlock => fun gathered pair =>
    ({ gathered with pages := gathered.pages.add (Tally.page pair.secondary) }, none)
  | .instruction => fun gathered pair =>
    let (instructions, complaint) := countMatch gathered.instructions pair
    ({ gathered with instructions := instructions }, complaint)

/-- The parse behind a digest. -/
def parse (around : Surroundings) (reader : ReaderSettings) (given : GivenPath) : Report Gathered :=
  BinaryDiff.parse around ⟨given, true, reader.addressWidth⟩ sink nothing

/-- The number of function matches that are shown. -/
def shownMatches : Nat := 10

/-- The number of pages that are shown. -/
def shownPages : Nat := 5

/-- The beginning of a hash. -/
def shortHash (metadata : BinaryMetadata) : String :=
  String.ofList (metadata.contentHash.toList.take 8)

/-- A binary by its name and hash. -/
def binary (metadata : BinaryMetadata) : String :=
  s!"{metadata.name} ({shortHash metadata})"

/-- The lines about the two binaries. -/
def binariesLine (metadata : Option MetadataPair) : List String :=
  match metadata with
  | some pair => [binary pair.primary ++ " vs " ++ binary pair.secondary]
  | none => []

/-- The line about a page. -/
def pageLine (entry : Int × Nat) : String :=
  s!"  page {Hex.signed (Tally.base entry.1)}: {entry.2} blocks"

/-- The lines of a digest. -/
def lines (result : ParseResult) (gathered : Gathered) : List String :=
  binariesLine result.metadata
    ++ [s!"  functions:    {result.functionMatches}",
        s!"  basic blocks: {result.basicBlockMatches}",
        s!"  instructions: {gathered.instructions}"]
    ++ (gathered.functions.kept.take shownMatches).map (fun pair => "  " ++ pair.text)
    ++ (gathered.pages.mostCommon shownPages).map pageLine

/-- A failure as a digest reports it. -/
def complaint (error : DiffError) : String :=
  error.kind ++ ": " ++ error.message

/-- The text of some lines. -/
def text (lines : List String) : String :=
  String.join (lines.map (· ++ "\n"))

/-- How a digest ends. -/
inductive Ending
  /-- With a status. -/
  | status (code : Nat)
  /-- Without a configuration. -/
  | withoutConfig (failure : ConfigFailure)
  /-- With a failure that nothing handles. -/
  | unhandled (failure : Failure)
deriving DecidableEq, Repr

/-- What making a digest comes to. -/
structure Run where
  /-- How the log was set up, if that was done. -/
  log : Option LogSetup
  /-- All that was logged, whatever the level. -/
  events : List LogEvent
  stdout : String
  stderr : String
  ending : Ending

/-- Makes a digest under a configuration. -/
def runWith (around : Surroundings) (reader : ReaderSettings) (setup : LogSetup)
    (given : GivenPath) : Run :=
  let report := parse around reader given
  match report.outcome with
  | .ok result => ⟨setup, report.events, text (lines result report.state), "", .status 0⟩
  | .error (.diff error) => ⟨setup, report.events, "", complaint error ++ "\n", .status 1⟩
  | .error failure => ⟨setup, report.events, "", "", .unhandled failure⟩

/-- Makes the digest of the diff result at a path under the configuration that is found. -/
def run (around : Surroundings) (given : GivenPath) : Run :=
  match loadConfig around none with
  | .error failure => ⟨none, [], "", "", .withoutConfig failure⟩
  | .ok settings =>
    match LogSetup.make settings.logging.level settings.logging.json with
    | .error failure => ⟨none, [], "", "", .unhandled failure⟩
    | .ok setup => runWith around settings.reader setup given

/-- The records of the log, if it is written as JSON. -/
def Run.records (outcome : Run) : List Json :=
  match outcome.log with
  | some setup => setup.records outcome.events
  | none => []

end Digest
end BinaryDiff
