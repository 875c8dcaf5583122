import BinaryDiff.Cursor.Cursor

/-! # Sessions

Any number of stores may be open at a time, with any number of cursors on each. A session keeps
them in the order in which they came to be and refers to them by their places; a command changes
one of them. Cursors share nothing but the store that they were opened on. -/

namespace BinaryDiff

/-- A cursor together with the place of its store. -/
structure SessionCursor where
  store : Nat
  cursor : MatchCursor
deriving Repr

/-- The stores and cursors of a session. -/
structure Session where
  stores : List Store
  cursors : List SessionCursor
deriving Repr

/-- What can be asked of a session. -/
inductive Command
  /-- Open the store at a path. -/
  | openStore (around : Surroundings) (given : GivenPath)
  /-- Close a store. -/
  | closeStore (store : Nat)
  /-- Start a query on a store. -/
  | query (store : Nat) (granularity : Granularity) (width : Int)
  /-- Ask a cursor for its pass. -/
  | iterate (cursor : Nat)
  /-- Fetch the next match. -/
  | next (cursor : Nat)
  /-- Fetch all further matches. -/
  | drain (cursor : Nat)
  /-- Close a cursor. -/
  | closeCursor (cursor : Nat)

/-- What a session answers. -/
inductive Reply
  /-- The command was carried out. -/
  | done
  /-- The place of a new store. -/
  | store (place : Nat)
  /-- The place of a new cursor. -/
  | cursor (place : Nat)
  /-- Matches, and what came after them; a single fetch that yields a match has nothing after it. -/
  | fetched (pairs : List AddressPair) (last : Option Step)
  /-- The command failed. -/
  | failed (failure : Failure)
  /-- There is nothing that the command could apply to. -/
  | absent
deriving DecidableEq, Repr

namespace Session

/-- The session before anything was opened. -/
def empty : Session := ⟨[], []⟩

/-- Whether the store at a place is open. -/
def storeOpen (session : Session) (place : Nat) : Bool :=
  match session.stores[place]? with
  | some store => store.isOpen
  | none => false

/-- The session with another cursor state at a place. -/
def setCursor (session : Session) (place : Nat) (entry : SessionCursor) (cursor : MatchCursor) :
    Session :=
  { session with cursors := session.cursors.set place { entry with cursor := cursor } }

/-- What a fetch is reported as. -/
def report : Step → Reply
  | .pair pair => .fetched [pair] none
  | last => .fetched [] (some last)

/-- Carries out a command that concerns a cursor. -/
def onCursor (session : Session) (place : Nat)
    (act : SessionCursor → List LogEvent × Session × Reply) : List LogEvent × Session × Reply :=
  match session.cursors[place]? with
  | some entry => act entry
  | none => ([], session, .absent)

/-- Carries out a command: the events that it logs, the session after it, and the answer. -/
def run (session : Session) : Command → List LogEvent × Session × Reply
  | .openStore around given =>
    let opening := Store.openAt around given
    match opening.outcome with
    | .error failure => (opening.events, session, .failed failure)
    | .ok store =>
      (opening.events, { session with stores := session.stores ++ [store] },
        .store session.stores.length)
  | .closeStore place =>
    match session.stores[place]? with
    | none => ([], session, .absent)
    | some store =>
      let (events, store) := store.close
      (events, { session with stores := session.stores.set place store }, .done)
  | .query place granularity width =>
    match session.stores[place]? with
    | none => ([], session, .absent)
    | some store =>
      let querying := MatchCursor.query store granularity width
      match querying.outcome with
      | .error failure => (querying.events, session, .failed failure)
      | .ok cursor =>
        (querying.events, { session with cursors := session.cursors ++ [⟨place, cursor⟩] },
          .cursor session.cursors.length)
  | .iterate place => session.onCursor place fun entry =>
    match entry.cursor.iterate with
    | .error failure => ([], session, .failed failure)
    | .ok cursor => ([], session.setCursor place entry cursor, .done)
  | .next place => session.onCursor place fun entry =>
    match entry.cursor.next (session.storeOpen entry.store) with
    | none => ([], session, .absent)
    | some (step, cursor) => ([], session.setCursor place entry cursor, report step)
  | .drain place => session.onCursor place fun entry =>
    if entry.cursor.phase = .untouched then ([], session, .absent)
    else
      let (pairs, last, cursor) :=
        entry.cursor.drain (session.storeOpen entry.store) entry.cursor.enough
      ([], session.setCursor place entry cursor, .fetched pairs (some last))
  | .closeCursor place => session.onCursor place fun entry =>
    match entry.cursor.close (session.storeOpen entry.store) with
    | .error failure => ([], session, .failed failure)
    | .ok cursor => ([], session.setCursor place entry cursor, .done)

end Session
end BinaryDiff
