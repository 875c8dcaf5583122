import BinaryDiff.Cursor.Decode
import BinaryDiff.Store.Store

/-! # Match cursors

A cursor is a single pass over the rows of one match table. It holds its rows until it is closed,
until it has delivered them all, or until it has failed. What the next fetch does depends on how
far the pass has come, on whether the rows are still held, and on whether the store that they come
from is still open. -/

namespace BinaryDiff

/-- How far the single pass of a cursor has come. -/
inductive Phase
  /-- The pass has not been asked for. -/
  | untouched
  /-- The pass has been asked for, and nothing was fetched. -/
  | ready
  /-- Some rows were fetched. -/
  | underWay
  /-- The pass is over, by its end or by a failure. -/
  | over
deriving DecidableEq, Repr

/-- A cursor over the matches of one granularity. -/
structure MatchCursor where
  reader : RowReader
  /-- The rows that were not fetched so far. -/
  pending : List FetchedRow
  /-- The number of matches delivered so far. -/
  rowsRead : Nat
  /-- Whether the rows of the database are still held. -/
  held : Bool
  phase : Phase
deriving Repr

/-- What a fetch comes to. -/
inductive Step
  | pair (pair : AddressPair)
  | finished
  | failed (failure : Failure)
deriving DecidableEq, Repr

namespace MatchCursor

/-- The name of the cursor's logger. -/
def logger : String := "vxsig.diff.cursor"

/-- The event of a new query. -/
def queried (store : Store) (granularity : Granularity) : LogEvent :=
  ⟨logger, .debug, "query_matches",
    [("path", .text store.path), ("table", .text granularity.table)]⟩

/-- Starts a fresh query over a match table. The query is logged even if it then fails. -/
def query (store : Store) (granularity : Granularity) (width : Int) (host : Host := .plain) :
    Logged MatchCursor := do
  Logged.log (queried store granularity)
  let rows ← Logged.ofExcept (store.execute (.matchesOf granularity) host)
  return ⟨⟨store.path, granularity, width⟩, rows, 0, true, .untouched⟩

/-- All that the cursor has yet to deliver while its store stays open. -/
def feed (cursor : MatchCursor) : Feed :=
  cursor.reader.feed cursor.rowsRead cursor.pending

/-- Asks for the pass over the rows, which is possible once. -/
def iterate (cursor : MatchCursor) : Except Failure MatchCursor :=
  if cursor.phase = .untouched then .ok { cursor with phase := .ready }
  else .error (.alreadyConsumed cursor.reader.granularity)

/-- Gives the rows back. That fails after their database was closed; without rows there is nothing
to do. -/
def close (storeOpen : Bool) (cursor : MatchCursor) : Except Failure MatchCursor :=
  if cursor.held then
    if storeOpen then .ok { cursor with held := false } else .error .databaseClosed
  else .ok cursor

/-- The cursor after its pass has come to an end. -/
def finish (cursor : MatchCursor) : MatchCursor :=
  { cursor with held := false, phase := .over }

/-- Fetches a row that is held in an open database. -/
def fetch (cursor : MatchCursor) : Step × MatchCursor :=
  match cursor.pending with
  | [] => (.finished, cursor.finish)
  | row :: rows =>
    let rest := { cursor with pending := rows }
    match cursor.reader.pair cursor.rowsRead row with
    | .error failure => (.failed failure, rest.finish)
    | .ok pair => (.pair pair, { rest with rowsRead := cursor.rowsRead + 1, phase := .underWay })

/-- The complaint about a pass that goes on after its rows were given back. -/
def rowsGivenBack (cursor : MatchCursor) : Failure :=
  .diff (.unreadable cursor.reader.path "Cannot operate on a closed cursor.")

/-- Fetches the next match; there is none before the pass was asked for. A pass under way fails
when its rows were given back, and one whose database was closed cannot even give them back. -/
def next (storeOpen : Bool) (cursor : MatchCursor) : Option (Step × MatchCursor) :=
  match cursor.phase with
  | .untouched => none
  | .over => some (.finished, cursor)
  | phase =>
    if cursor.held then
      if storeOpen then some cursor.fetch
      else some (.failed .databaseClosed, { cursor with phase := .over })
    else if phase = .ready then some (.finished, cursor.finish)
    else some (.failed cursor.rowsGivenBack, cursor.finish)

/-- Fetches matches until there is none, at most a given number of times. -/
def drain (storeOpen : Bool) : Nat → MatchCursor → List AddressPair × Step × MatchCursor
  | 0, cursor => ([], .finished, cursor)
  | limit + 1, cursor =>
    match cursor.next storeOpen with
    | none => ([], .finished, cursor)
    | some (.pair pair, cursor) =>
      let (pairs, last, cursor) := drain storeOpen limit cursor
      (pair :: pairs, last, cursor)
    | some (last, cursor) => ([], last, cursor)

/-- A number of fetches that is always enough to come to the end of the pass. -/
def enough (cursor : MatchCursor) : Nat := cursor.pending.length + 1

/-- The cursor after a number of fetches from an open store. -/
def advance : Nat → MatchCursor → MatchCursor
  | 0, cursor => cursor
  | count + 1, cursor =>
    match cursor.next true with
    | none => cursor
    | some (_, cursor) => advance count cursor

end MatchCursor
end BinaryDiff
