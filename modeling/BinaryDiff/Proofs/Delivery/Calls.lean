import BinaryDiff.Delivery.Parse
import Mathlib.Tactic.Common

/-!
# The calls made on sinks

An offer is a match on its way to the sink of its granularity, and a call is an offer together with
the sink's answer.  To see the calls that a parse makes, its sinks are replaced by sinks that also
keep a record.  They answer like the sinks they stand for, so a parse with them is the parse itself
as far as anything else can be observed: this is `parse_recording`, an instance of the fact that a
parse commutes with every map between the states of two families of sinks (`parse_map`).
-/

namespace BinaryDiff

/-- A match on its way to the sink of a granularity. -/
structure Offer where
  granularity : Granularity
  pair : AddressPair
deriving DecidableEq, Repr

/-- An offer with the complaint of the sink, if it made one. -/
structure Call where
  offer : Offer
  complaint : Option Failure
deriving DecidableEq, Repr

namespace Call

/-- The call by which an offer was accepted. -/
def accepted (offer : Offer) : Call := ⟨offer, none⟩

@[simp] lemma offer_accepted (offer : Offer) : (accepted offer).offer = offer := rfl

@[simp] lemma complaint_accepted (offer : Offer) : (accepted offer).complaint = none := rfl

end Call

variable {σ τ : Type}

/-! ### Offers to a family of sinks -/

/-- The sinks take some offers one after the other without complaint. -/
inductive Accepts (sinks : Granularity → Sink σ) : σ → List Offer → σ → Prop
  | nil (state : σ) : Accepts sinks state [] state
  | cons {state next last : σ} {offer : Offer} {offers : List Offer} :
      sinks offer.granularity state offer.pair = (next, none) →
      Accepts sinks next offers last → Accepts sinks state (offer :: offers) last

/-- The calls made when offers are made one after the other up to the first complaint. -/
def callsOn (sinks : Granularity → Sink σ) : σ → List Offer → List Call
  | _, [] => []
  | state, offer :: offers =>
    match sinks offer.granularity state offer.pair with
    | (next, none) => .accepted offer :: callsOn sinks next offers
    | (_, some complaint) => [⟨offer, some complaint⟩]

variable {sinks : Granularity → Sink σ}

lemma Accepts.append {state next last : σ} {offers others : List Offer}
    (h : Accepts sinks state offers next) (hothers : Accepts sinks next others last) :
    Accepts sinks state (offers ++ others) last := by
  induction h with
  | nil => exact hothers
  | cons hcall _ ih => exact .cons hcall (ih hothers)

/-- What the sinks come to is determined by what they take. -/
lemma Accepts.unique {state last other : σ} {offers : List Offer}
    (h : Accepts sinks state offers last) (hother : Accepts sinks state offers other) :
    last = other := by
  induction h with
  | nil =>
    cases hother
    rfl
  | cons hcall _ ih =>
    cases hother with
    | cons hsame hrest =>
      cases hcall.symm.trans hsame
      exact ih hrest

lemma Accepts.callsOn_append {state next : σ} {offers : List Offer}
    (h : Accepts sinks state offers next) (others : List Offer) :
    callsOn sinks state (offers ++ others)
      = offers.map Call.accepted ++ callsOn sinks next others := by
  induction h with
  | nil => rfl
  | cons hcall _ ih => simp [callsOn, hcall, ih]

lemma Accepts.callsOn {state next : σ} {offers : List Offer}
    (h : Accepts sinks state offers next) :
    callsOn sinks state offers = offers.map Call.accepted := by
  simpa [BinaryDiff.callsOn] using h.callsOn_append []

lemma callsOn_of_refused {state last : σ} {offer : Offer} {complaint : Failure}
    (h : sinks offer.granularity state offer.pair = (last, some complaint)) (offers : List Offer) :
    callsOn sinks state (offer :: offers) = [⟨offer, some complaint⟩] := by
  rw [callsOn, h]

/-! ### Complaints -/

/-- What escapes being passed on in other words: a request to stop, and a complaint without words,
for which the failure to find them stands. -/
lemma Failure.escape?_eq_some {complaint failure : Failure}
    (h : complaint.escape? = some failure) :
    (failure = complaint ∧ ∃ name text, complaint = .interrupted name text) ∨
      ∃ name kind text, complaint = .wordless name kind text ∧ failure = .raised kind text := by
  cases complaint with
  | interrupted name text =>
    cases h
    exact .inl ⟨rfl, name, text, rfl⟩
  | wordless name kind text =>
    cases h
    exact .inr ⟨name, kind, text, rfl, rfl⟩
  | _ => cases h

namespace Dispatch

/-- What a complaint of a sink makes of a delivery: it is put in other words, unless it escapes
that. -/
def refusal (granularity : Granularity) (index : Nat) (pair : AddressPair) (path : Option String)
    (complaint : Failure) : Failure :=
  complaint.escape?.getD (rejection granularity index pair path complaint)

/-- What is logged about a complaint of a sink. -/
def refusalEvents (granularity : Granularity) (index : Nat) (pair : AddressPair)
    (complaint : Failure) : List LogEvent :=
  if complaint.escape?.isSome then [] else [aborted granularity index pair complaint]

/-- A complaint ends the delivery. -/
lemma deliver_of_refused {sink : Sink σ} {state last : σ} {pair : AddressPair} {complaint : Failure}
    (h : sink state pair = (last, some complaint)) (granularity : Granularity)
    (path : Option String) (failure : Option Failure) (count : Nat) (pairs : List AddressPair) :
    deliver sink granularity path failure count (pair :: pairs) state
      = ⟨refusalEvents granularity count pair complaint, last, count + 1, false,
          .error (refusal granularity count pair path complaint)⟩ := by
  rw [deliver, h, refusalEvents, refusal]
  dsimp only
  cases complaint.escape? <;> rfl

end Dispatch

/-- Matches that a sink takes without complaint come to nothing but their number and its state. -/
lemma Accepts.deliver_append {granularity : Granularity} {pairs : List AddressPair}
    {state last : σ} (h : Accepts sinks state (pairs.map (Offer.mk granularity)) last)
    (path : Option String) (failure : Option Failure) (count : Nat) (others : List AddressPair) :
    Dispatch.deliver (sinks granularity) granularity path failure count (pairs ++ others) state
      = Dispatch.deliver (sinks granularity) granularity path failure (count + pairs.length) others
          last := by
  induction pairs generalizing count state with
  | nil =>
    cases h
    rfl
  | cons pair pairs ih =>
    cases h with
    | cons hcall hrest =>
      rw [List.cons_append, Dispatch.deliver, hcall, List.length_cons, ← Nat.add_assoc,
        Nat.add_right_comm]
      exact ih hrest (count + 1)

/-! ### Sinks that keep a record -/

/-- A state of sinks with the calls made so far. -/
structure Record (σ : Type) where
  state : σ
  calls : List Call

/-- The sinks that answer like others and keep a record of the calls. -/
def recording (sinks : Granularity → Sink σ) (granularity : Granularity) : Sink (Record σ) :=
  fun record pair =>
    let (state, complaint) := sinks granularity record.state pair
    (⟨state, record.calls ++ [⟨⟨granularity, pair⟩, complaint⟩]⟩, complaint)

/-- What is accepted on record is accepted, and all of it goes on record. -/
lemma Accepts.of_recording {record last : Record σ} {offers : List Offer}
    (h : Accepts (recording sinks) record offers last) :
    Accepts sinks record.state offers last.state ∧
      last.calls = record.calls ++ offers.map Call.accepted := by
  induction h with
  | nil => exact ⟨.nil _, by simp⟩
  | @cons record next last offer offers hcall _ ih =>
    obtain ⟨hrest, hcalls⟩ := ih
    simp only [recording, Prod.mk.injEq] at hcall
    obtain ⟨rfl, hanswer⟩ := hcall
    refine ⟨.cons (Prod.ext rfl hanswer) hrest, ?_⟩
    rw [hcalls, List.map_cons, hanswer, List.append_assoc]
    rfl

/-- A complaint is the same on record. -/
lemma recording_eq_some {record last : Record σ} {offer : Offer} {complaint : Failure}
    (h : recording sinks offer.granularity record offer.pair = (last, some complaint)) :
    sinks offer.granularity record.state offer.pair = (last.state, some complaint) ∧
      last.calls = record.calls ++ [⟨offer, some complaint⟩] := by
  simp only [recording, Prod.mk.injEq] at h
  obtain ⟨rfl, hanswer⟩ := h
  exact ⟨Prod.ext rfl hanswer, by rw [hanswer]⟩

/-- A delivery puts the calls on record that are made when its matches are offered. -/
lemma calls_deliver (sinks : Granularity → Sink σ) (granularity : Granularity)
    (path : Option String) (failure : Option Failure) (count : Nat) (pairs : List AddressPair)
    (record : Record σ) :
    (Dispatch.deliver (recording sinks granularity) granularity path failure count pairs
        record).state.calls
      = record.calls ++ callsOn sinks record.state (pairs.map (Offer.mk granularity)) := by
  induction pairs generalizing count record with
  | nil => cases failure <;> exact (List.append_nil _).symm
  | cons pair pairs ih =>
    rw [List.map_cons, callsOn]
    cases hcall : sinks granularity record.state pair with
    | mk next answer =>
      cases answer with
      | none =>
        have hrecorded : recording sinks granularity record pair
            = (⟨next, record.calls ++ [.accepted ⟨granularity, pair⟩]⟩, none) := by
          simp only [recording, hcall]
          rfl
        rw [Dispatch.deliver, hrecorded]
        refine (ih (count + 1) _).trans ?_
        rw [List.append_assoc]
        rfl
      | some complaint =>
        have hrecorded : recording sinks granularity record pair
            = (⟨next, record.calls ++ [⟨⟨granularity, pair⟩, some complaint⟩]⟩,
                some complaint) := by
          simp only [recording, hcall]
        rw [Dispatch.deliver_of_refused hrecorded]

/-! ### The delivery of tables -/

/-- On an open store the rows of a cursor can be given back. -/
lemma MatchCursor.close_true (cursor : MatchCursor) :
    cursor.close true = .ok { cursor with held := false } := by
  obtain ⟨reader, pending, rowsRead, held, phase⟩ := cursor
  cases held <;> rfl

/-- Only an open store answers a query. -/
lemma Store.isOpen_of_execute {store : Store} {query : Query} {host : Host}
    {rows : List FetchedRow} (h : store.execute query host = .ok rows) : store.isOpen = true := by
  by_contra hclosed
  rw [execute, if_neg hclosed] at h
  cases h

/-- The cursor of a delivery can be closed, because it was queried from an open store. -/
lemma Parse.deliverTables_cons (store : Store) (width : Int) (sinks : Granularity → Sink σ)
    (granularity : Granularity) (others : List Granularity) (state : σ) (host : Host) :
    deliverTables store width sinks (granularity :: others) state host
      = match (MatchCursor.query store granularity width host).outcome with
        | .error failure =>
          ⟨(MatchCursor.query store granularity width host).events, state, [], .error failure⟩
        | .ok cursor =>
          let delivery :=
            dispatch (sinks granularity) granularity (some store.path) cursor.feed state
          let used := { fetched cursor delivery.fetches with held := false }
          let events := (MatchCursor.query store granularity width host).events ++ delivery.events
          match delivery.outcome with
          | .error failure => ⟨events, delivery.state, [used], .error failure⟩
          | .ok count =>
            let rest := deliverTables store width sinks others delivery.state host
            ⟨events ++ rest.events, rest.state, used :: rest.cursors,
              rest.outcome.map (count :: ·)⟩ := by
  rw [deliverTables]
  cases hquery : (MatchCursor.query store granularity width host).outcome with
  | error failure => rfl
  | ok cursor =>
    have hopen : store.isOpen = true := by
      cases hrows : store.execute (.matchesOf granularity) host with
      | error failure =>
        rw [MatchCursor.query, hrows] at hquery
        cases hquery
      | ok rows => exact Store.isOpen_of_execute hrows
    cases hdelivered : (dispatch (sinks granularity) granularity (some store.path) cursor.feed
      state).outcome with
    | error failure => simp [hopen, MatchCursor.close_true, hdelivered]
    | ok count => simp [hopen, MatchCursor.close_true, hdelivered]

/-! ### Maps between families of sinks -/

/-- A map of states under which one family of sinks does the same as another. -/
def SinkMap (f : τ → σ) (source : Granularity → Sink τ) (target : Granularity → Sink σ) : Prop :=
  ∀ granularity state pair, target granularity (f state) pair
    = (f (source granularity state pair).1, (source granularity state pair).2)

lemma sinkMap_recording (sinks : Granularity → Sink σ) :
    SinkMap Record.state (recording sinks) sinks :=
  fun _ _ _ => rfl

/-- The delivery with another view of the sink's state. -/
def Delivery.mapState (f : τ → σ) (delivery : Delivery τ) : Delivery σ :=
  ⟨delivery.events, f delivery.state, delivery.pulled, delivery.exhausted, delivery.outcome⟩

/-- The run with another view of the sinks' state. -/
def TableRun.mapState (f : τ → σ) (run : TableRun τ) : TableRun σ :=
  ⟨run.events, f run.state, run.cursors, run.outcome⟩

/-- The report with another view of the sinks' state. -/
def Report.mapState (f : τ → σ) (report : Report τ) : Report σ :=
  ⟨report.events, f report.state, report.store, report.cursors, report.outcome⟩

section Maps

variable {f : τ → σ} {source : Granularity → Sink τ} {target : Granularity → Sink σ}

lemma deliver_map (h : SinkMap f source target) (granularity : Granularity)
    (path : Option String) (failure : Option Failure) (count : Nat) (pairs : List AddressPair)
    (state : τ) :
    Dispatch.deliver (target granularity) granularity path failure count pairs (f state)
      = (Dispatch.deliver (source granularity) granularity path failure count pairs state).mapState
          f := by
  induction pairs generalizing count state with
  | nil => cases failure <;> rfl
  | cons pair pairs ih =>
    have hcalls := h granularity state pair
    cases hcall : source granularity state pair with
    | mk next answer =>
      rw [hcall] at hcalls
      cases answer with
      | none =>
        rw [Dispatch.deliver, Dispatch.deliver, hcalls, hcall]
        exact ih (count + 1) next
      | some complaint =>
        rw [Dispatch.deliver_of_refused hcalls, Dispatch.deliver_of_refused hcall]
        rfl

lemma deliverTables_map (h : SinkMap f source target) (store : Store) (width : Int)
    (granularities : List Granularity) (state : τ) (host : Host) :
    Parse.deliverTables store width target granularities (f state) host
      = (Parse.deliverTables store width source granularities state host).mapState f := by
  induction granularities generalizing state with
  | nil => rfl
  | cons granularity others ih =>
    rw [Parse.deliverTables_cons, Parse.deliverTables_cons]
    cases (MatchCursor.query store granularity width host).outcome with
    | error failure => rfl
    | ok cursor =>
      simp only [dispatch, deliver_map h]
      generalize Dispatch.deliver (source granularity) granularity (some store.path)
        cursor.feed.failure 0 cursor.feed.pairs state = delivery
      obtain ⟨events, next, pulled, exhausted, outcome⟩ := delivery
      cases outcome with
      | error failure => rfl
      | ok count => simp only [Delivery.mapState, ih next]; rfl

/-- A parse commutes with a map between the states of two families of sinks. -/
theorem parse_map (h : SinkMap f source target) (around : Surroundings) (request : ParseRequest)
    (state : τ) (host : Host := .plain) :
    parse around request target (f state) host
      = (parse around request source state host).mapState f := by
  have hrun : Parse.run around request target (f state) host
      = (Parse.run around request source state host).mapState f := by
    rw [Parse.run, Parse.run]
    cases (Store.openAt around request.given host).outcome with
    | error failure => rfl
    | ok store =>
      cases hprepared : (Parse.prepare store request.metadataRequested host).outcome with
      | error failure => simp only [hprepared]; rfl
      | ok metadata =>
        simp only [hprepared, deliverTables_map h]
        generalize Parse.deliverTables store request.width source Granularity.all state host = run
        obtain ⟨events, next, cursors, outcome⟩ := run
        cases outcome <;> rfl
  rw [parse, hrun]
  rfl

end Maps

/-- But for the record, a parse with sinks that keep one is the parse with the sinks themselves. -/
theorem parse_recording (around : Surroundings) (request : ParseRequest)
    (sinks : Granularity → Sink σ) (record : Record σ) (host : Host := .plain) :
    (parse around request (recording sinks) record host).mapState Record.state
      = parse around request sinks record.state host :=
  (parse_map (sinkMap_recording sinks) around request record host).symm

end BinaryDiff
