import BinaryDiff.Command.Arguments
import BinaryDiff.Command.Run
import BinaryDiff.Config.Settings
import BinaryDiff.Cursor.Cursor
import BinaryDiff.Number.Lenient
import BinaryDiff.Number.Natural

/-! # The command `matches`

Lists the first matches of one table in storage order. Only that table is checked, and no more of it
is read than is shown. -/

namespace BinaryDiff

/-- An option of `matches`. -/
inductive MatchesOption
  | granularity (label : String)
  | limit (text : String)
  | json
  | help
deriving DecidableEq, Repr

/-- What is asked of `matches`. -/
structure MatchesRequest where
  path : Path
  /-- The granularity as it was written. -/
  label : String
  /-- The greatest number of matches to show. -/
  limit : Nat
  /-- Whether the output is JSON rather than a table. -/
  json : Bool
deriving DecidableEq, Repr

namespace MatchesRequest

/-- The spellings of the options. -/
def options : OptionTable MatchesOption :=
  [("--granularity", .valued .granularity), ("-g", .valued .granularity),
   ("--limit", .valued .limit), ("-l", .valued .limit), ("--json", .flag .json),
   ("--help", .flag .help)]

/-- The number of matches that are shown when no limit is given. -/
def defaultLimit : Nat := 50

/-- The label that an option gives. -/
def label? : MatchesOption → Option String
  | .granularity label => some label
  | _ => none

/-- The text of the limit that an option gives. -/
def limit? : MatchesOption → Option String
  | .limit text => some text
  | _ => none

/-- The limit that a text stands for. -/
def readLimit (text : String) : Except UsageError Nat :=
  match Lenient.integer text.toList with
  | .ok (.ofNat limit) => .ok limit
  | _ => .error (.badValue "--limit" text)

/-- What the arguments ask for; none if they ask for help. The last word on each option counts. -/
def read (words : List String) : Except UsageError (Option MatchesRequest) := do
  let arguments ← Arguments.read options true words
  if arguments.options.contains .help then return none
  let limit ← match arguments.last? limit? with
    | some text => readLimit text
    | none => .ok defaultLimit
  let path ← arguments.path
  let label := (arguments.last? label?).getD Granularity.function.label
  return some ⟨path, label, limit, arguments.options.contains .json⟩

/-- The greatest number of matches that can be asked for. -/
def greatestLimit : Nat := twoTo 63 - 1

/-- The first matches of a cursor. -/
def first (limit : Nat) (cursor : MatchCursor) : Except Failure (List AddressPair) :=
  if greatestLimit < limit then .error .limitTooLarge else cursor.feed.take limit

/-- The first matches of an open store at a granularity, after a check of their table. -/
def ofStore (store : Store) (width : Int) (limit : Nat) (granularity : Granularity) :
    Logged (List AddressPair) := do
  store.validate [(granularity.table, Schema.matchColumns)]
  let cursor ← MatchCursor.query store granularity width
  Logged.ofExcept (first limit cursor)

/-- The matches to show. Whatever happens, the store is closed in the end. -/
def select (around : Surroundings) (reader : ReaderSettings) (request : MatchesRequest)
    (granularity : Granularity) : Logged (List AddressPair) :=
  let opening := Store.openAt around (.ofPath request.path)
  match opening.outcome with
  | .error failure => ⟨opening.events, .error failure⟩
  | .ok store =>
    let selection := ofStore store reader.addressWidth request.limit granularity
    ⟨opening.events ++ selection.events ++ store.close.1, selection.outcome⟩

/-- The row of a match. -/
def row (pair : AddressPair) : List (String × Json) :=
  [("primary", .str (formatAddress pair.primary)),
   ("secondary", .str (formatAddress pair.secondary))]

/-- What is printed about some matches. -/
def output (console : Console) (request : MatchesRequest) (granularity : Granularity)
    (pairs : List AddressPair) : Except MarkupError String :=
  let rows := pairs.map row
  if request.json then .ok (Display.json (.arr (rows.map .obj)))
  else Display.table console rows (some (granularity.label ++ " matches")) []

/-- Carries out the command. The label is looked at before the store. -/
def run (around : Surroundings) (reader : ReaderSettings) (console : Console)
    (request : MatchesRequest) : Run :=
  match Granularity.ofLabel request.label with
  | .error failure => .complain console [] failure.text 1
  | .ok granularity =>
    let selection := request.select around reader granularity
    match selection.outcome with
    | .error failure => .failed console selection.events failure
    | .ok pairs => .printAll selection.events [request.output console granularity pairs]

end MatchesRequest
end BinaryDiff
