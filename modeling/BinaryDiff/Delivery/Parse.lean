import BinaryDiff.Cursor.Cursor
import BinaryDiff.Delivery.Dispatch
import BinaryDiff.Log.Binding
import BinaryDiff.Store.Metadata

/-! # Parsing a diff result

A parse opens a store, checks its schema, reads the records of the two binaries if that was asked
for, and then streams the three match tables to their sinks, function matches first. Whatever
happens, the store is closed and no cursor keeps its rows. The report of a parse holds all that can
be observed of it: what was logged, the state of the sinks, the store and the cursors as they were
left, and the outcome. -/

namespace BinaryDiff

/-- What is asked of a parse. -/
structure ParseRequest where
  given : GivenPath
  metadataRequested : Bool
  /-- The number of bits in an address. -/
  width : Int
deriving Repr

/-- What can be observed of a parse with sinks that have their states in `σ`. -/
structure Report (σ : Type) where
  events : List LogEvent
  /-- The state of the sinks at the end. -/
  state : σ
  /-- The store that was opened, as it was left. -/
  store : Option Store
  /-- The cursors that were used, as they were left. -/
  cursors : List MatchCursor
  outcome : Except Failure ParseResult

/-- What can be observed of the delivery of some tables; the outcome has a count for each. -/
structure TableRun (σ : Type) where
  events : List LogEvent
  state : σ
  cursors : List MatchCursor
  outcome : Except Failure (List Nat)

namespace Parse

/-- The name of the logger. -/
def logger : String := "vxsig.diff.reader"

/-- A cursor after it has been asked for its pass and fetched from so often. -/
def fetched (cursor : MatchCursor) (fetches : Nat) : MatchCursor :=
  ({ cursor with phase := .ready }).advance fetches

/-- Delivers the tables of some granularities, one after the other. Whatever comes of a delivery,
its cursor is closed; a failure to close it would take the place of the outcome. -/
def deliverTables {σ : Type} (store : Store) (width : Int) (sinks : Granularity → Sink σ)
    (granularities : List Granularity) (state : σ) (host : Host := .plain) : TableRun σ :=
  match granularities with
  | [] => ⟨[], state, [], .ok []⟩
  | granularity :: others =>
    let querying := MatchCursor.query store granularity width host
    match querying.outcome with
    | .error failure => ⟨querying.events, state, [], .error failure⟩
    | .ok cursor =>
      let delivery :=
        dispatch (sinks granularity) granularity (some store.path) cursor.feed state
      let used := fetched cursor delivery.fetches
      match used.close store.isOpen with
      | .error failure =>
        ⟨querying.events ++ delivery.events, delivery.state, [used], .error failure⟩
      | .ok used =>
        match delivery.outcome with
        | .error failure =>
          ⟨querying.events ++ delivery.events, delivery.state, [used], .error failure⟩
        | .ok count =>
          let rest := deliverTables store width sinks others delivery.state host
          ⟨querying.events ++ delivery.events ++ rest.events, rest.state, used :: rest.cursors,
            rest.outcome.map (count :: ·)⟩

/-- Checks an opened store, and reads the records of the two binaries if they are wanted. -/
def prepare (store : Store) (metadataRequested : Bool) (host : Host := .plain) :
    Logged (Option MetadataPair) := do
  store.validate Schema.requiredTables host
  if metadataRequested then
    let pair ← Metadata.extract store host
    return some pair
  else return none

/-- The result for the counts of the three tables. -/
def result (path : String) (counts : List Nat) (metadata : Option MetadataPair) : ParseResult :=
  ⟨path, counts.getD 0 0, counts.getD 1 0, counts.getD 2 0, metadata⟩

/-- The event of a successful parse. -/
def parsed (result : ParseResult) (metadataRequested : Bool) : LogEvent :=
  ⟨logger, .info, "diff_parsed",
    [("functions", .number result.functionMatches),
     ("basic_blocks", .number result.basicBlockMatches),
     ("instructions", .number result.instructionMatches),
     ("metadata_requested", .data (.bool metadataRequested))]⟩

/-- A parse before its events are marked with the path. -/
def run {σ : Type} (around : Surroundings) (request : ParseRequest) (sinks : Granularity → Sink σ)
    (state : σ) (host : Host := .plain) : Report σ :=
  let opening := Store.openAt around request.given host
  match opening.outcome with
  | .error failure => ⟨opening.events, state, none, [], .error failure⟩
  | .ok store =>
    let (closing, closed) := store.close
    let preparation := prepare store request.metadataRequested host
    match preparation.outcome with
    | .error failure =>
      ⟨opening.events ++ preparation.events ++ closing, state, some closed, [], .error failure⟩
    | .ok metadata =>
      let tables := deliverTables store request.width sinks Granularity.all state host
      let events := opening.events ++ preparation.events ++ tables.events ++ closing
      match tables.outcome with
      | .error failure => ⟨events, tables.state, some closed, tables.cursors, .error failure⟩
      | .ok counts =>
        let result := result request.given.shown counts metadata
        ⟨events ++ [parsed result request.metadataRequested], tables.state, some closed,
          tables.cursors, .ok result⟩

end Parse

/-- Parses a diff result into three sinks, which may share their state. -/
def parse {σ : Type} (around : Surroundings) (request : ParseRequest)
    (sinks : Granularity → Sink σ) (state : σ) (host : Host := .plain) : Report σ :=
  let report := Parse.run around request sinks state host
  { report with events := report.events.map (LogEvent.about request.given.shown) }

/-- Parses a diff result into whatever was handed over to receive the matches. Nothing is opened
unless all three are sinks. -/
def parseInto {σ : Type} (around : Surroundings) (request : ParseRequest)
    (handovers : List Handover) (sinks : Granularity → Sink σ) (state : σ)
    (host : Host := .plain) : Report σ :=
  match handovers.mapM Handover.asSink with
  | .error failure => ⟨[], state, none, [], .error failure⟩
  | .ok _ => parse around request sinks state host

/-- A parse in a log some fields of which are bound already. The path is bound while the store is
open and until the success of the parse is logged. -/
def parseWithin {σ : Type} (binder : Binder) (bindings : Bindings) (around : Surroundings)
    (request : ParseRequest) (handovers : List Handover) (sinks : Granularity → Sink σ)
    (state : σ) : Report σ × Bindings :=
  match handovers.mapM Handover.asSink with
  | .error failure => (⟨[], state, none, [], .error failure⟩, bindings)
  | .ok _ => binder.during "diff_path" (.text request.given.shown) bindings fun inner =>
      let report := Parse.run around request sinks state
      ({ report with events := report.events.map (inner.mark "diff_path") }, inner)

end BinaryDiff
