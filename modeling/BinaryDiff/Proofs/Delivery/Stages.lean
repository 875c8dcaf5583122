import BinaryDiff.Proofs.Delivery.Checking

/-!
# The stages of a parse

The log of a parse tells how far the parse came.  `Stages` lists the logs that are possible, from
the one of a parse that cannot open its store to that of a parse which succeeds, each with the
outcome that goes with it.  Every parse logs in one of these ways and leaves its store closed and
its cursors without rows (`parseInto_stages`).
-/

namespace BinaryDiff

/-! ### The events of the stages -/

namespace Stage

/-- The event of an opened store. -/
def opened (path : String) : LogEvent := Store.event "store_opened" [("path", .text path)]

/-- The event of a closed store. -/
def closed (path : String) : LogEvent := Store.event "store_closed" [("path", .text path)]

/-- The event of a schema check that succeeded. -/
def validated (path : String) : LogEvent :=
  Store.event "schema_validated" [("path", .text path),
    ("tables", .data (.arr (((Schema.requiredTables.map Prod.fst).mergeSort (· ≤ ·)).map .str)))]

/-- The event of records that were read. -/
def extracted (pair : MetadataPair) : LogEvent :=
  ⟨Metadata.logger, .debug, "metadata_extracted",
    [("primary", .text pair.primary.name), ("secondary", .text pair.secondary.name)]⟩

end Stage

/-- Whether the failure is the rejection of a match by a sink. -/
def Failure.IsRejection : Failure → Prop
  | .diff (.rejected ..) => True
  | _ => False

/-- What is logged while a store is prepared, and what comes of it. -/
inductive PrepareStages (store : Store) (metadataRequested : Bool) :
    List LogEvent → Except Failure (Option MetadataPair) → Prop
  /-- The schema is not as it should be. -/
  | invalid {failure : Failure} : store.requireTables Schema.requiredTables = .error failure →
      PrepareStages store metadataRequested [] (.error failure)
  /-- The records are wanted and cannot be read. -/
  | unrecorded {failure : Failure} : store.requireTables Schema.requiredTables = .ok () →
      metadataRequested = true → (Metadata.extract store).outcome = .error failure →
      PrepareStages store metadataRequested [Stage.validated store.path] (.error failure)
  | plain : store.requireTables Schema.requiredTables = .ok () → metadataRequested = false →
      PrepareStages store metadataRequested [Stage.validated store.path] (.ok none)
  | recorded {pair : MetadataPair} : store.requireTables Schema.requiredTables = .ok () →
      metadataRequested = true → (Metadata.extract store).outcome = .ok pair →
      PrepareStages store metadataRequested [Stage.validated store.path, Stage.extracted pair]
        (.ok (some pair))

/-- What is logged while some tables are delivered, and what comes of it. -/
inductive TableStages (store : Store) :
    List Granularity → List LogEvent → Except Failure (List Nat) → Prop
  | nil : TableStages store [] [] (.ok [])
  /-- All rows of a table are delivered, and the delivery goes on. -/
  | delivered {granularity : Granularity} {others : List Granularity} {events : List LogEvent}
      {outcome : Except Failure (List Nat)} {count : Nat} :
      count = (store.database.matchesOf granularity).length →
      TableStages store others events outcome →
      TableStages store (granularity :: others)
        (MatchCursor.queried store granularity :: Dispatch.completed granularity count :: events)
        (outcome.map (count :: ·))
  /-- A match is rejected. -/
  | rejected {granularity : Granularity} {others : List Granularity} (index : Nat)
      (pair : AddressPair) {complaint : Failure} : complaint.escape? = none →
      TableStages store (granularity :: others)
        [MatchCursor.queried store granularity,
          Dispatch.aborted granularity index pair complaint]
        (.error (Dispatch.rejection granularity index pair (some store.path) complaint))
  /-- A row is flawed, or a sink asks to stop altogether or makes a complaint without words. -/
  | stopped {granularity : Granularity} {others : List Granularity} {failure : Failure} :
      ¬ failure.IsRejection →
      TableStages store (granularity :: others) [MatchCursor.queried store granularity]
        (.error failure)

/-- What a parse logs, which store it leaves, and what comes of it, if its store is opened like
this. -/
inductive Stages (request : ParseRequest) (opening : Except Failure Store) :
    List LogEvent → Option Store → Except Failure ParseResult → Prop
  | notOpened {failure : Failure} : opening = .error failure → ¬ failure.IsRejection →
      Stages request opening [] none (.error failure)
  | unprepared {store : Store} {preparing : List LogEvent} {failure : Failure} :
      opening = .ok store → store.path = request.given.shown →
      PrepareStages store request.metadataRequested preparing (.error failure) →
      Stages request opening (Stage.opened store.path :: preparing ++ [Stage.closed store.path])
        (some { store with isOpen := false }) (.error failure)
  | halted {store : Store} {preparing tables : List LogEvent} {metadata : Option MetadataPair}
      {failure : Failure} : opening = .ok store → store.path = request.given.shown →
      PrepareStages store request.metadataRequested preparing (.ok metadata) →
      TableStages store Granularity.all tables (.error failure) →
      Stages request opening
        (Stage.opened store.path :: preparing ++ tables ++ [Stage.closed store.path])
        (some { store with isOpen := false }) (.error failure)
  | completed {store : Store} {preparing tables : List LogEvent} {metadata : Option MetadataPair}
      {counts : List Nat} {result : ParseResult} :
      opening = .ok store → store.path = request.given.shown →
      PrepareStages store request.metadataRequested preparing (.ok metadata) →
      TableStages store Granularity.all tables (.ok counts) →
      result = Parse.result store.path counts metadata →
      Stages request opening
        (Stage.opened store.path :: preparing ++ tables ++
          [Stage.closed store.path, Parse.parsed result request.metadataRequested])
        (some { store with isOpen := false }) (.ok result)

/-! ### Every parse goes through the stages -/

lemma Logged.events_bind {α β : Type} (first : Logged α) (next : α → Logged β) :
    (first >>= next).events = first.events ++ match first.outcome with
      | .ok value => (next value).events
      | .error _ => [] := by
  change (first.andThen next).events = _
  rw [andThen]
  cases first.outcome with
  | error failure => simp
  | ok value => rfl

lemma ReadFailure.not_isRejection {path : String} {failure : Failure}
    (h : ReadFailure path failure) : ¬ failure.IsRejection := by
  cases h <;> simp [Failure.IsRejection]

lemma Store.openAt_events (around : Surroundings) (given : GivenPath) :
    (openAt around given).events = match (openAt around given).outcome with
      | .ok _ => [Stage.opened given.shown]
      | .error _ => [] := by
  rw [openAt, Logged.events_bind, Logged.outcome_bind]
  cases hfile : fileAt around given with
  | error failure => rfl
  | ok content =>
    simp only [Logged.ofExcept, List.nil_append, bind, Except.bind]
    split
    · rfl
    · split <;> rfl

lemma Store.not_isRejection_of_openAt {around : Surroundings} {given : GivenPath}
    {failure : Failure} (h : (openAt around given).outcome = .error failure) :
    ¬ failure.IsRejection := by
  rcases openAt_failure h with rfl | hread | hunopened
  · simp [Failure.IsRejection]
  · exact hread.not_isRejection
  · cases hunopened <;> simp [Failure.IsRejection]

lemma Metadata.extract_events (store : Store) :
    (extract store).events = match (extract store).outcome with
      | .ok pair => [Stage.extracted pair]
      | .error _ => [] := by
  simp only [extract, Logged.events_bind, Logged.outcome_bind, Logged.ofExcept, List.nil_append]
  cases store.requireColumns Schema.metadataTable Schema.metadataColumns with
  | error failure => rfl
  | ok =>
    cases store.execute .metadata with
    | error failure => rfl
    | ok fetched =>
      cases hrows : Store.fetchAll fetched with
      | error failure => simp [hrows, bind, Except.bind]
      | ok rows =>
        cases hpair : readPair store.path rows <;>
          simp [hrows, hpair, bind, Except.bind, Logged.log, pure, Stage.extracted]

lemma Store.validate_events (store : Store) :
    (store.validate Schema.requiredTables).events
      = match store.requireTables Schema.requiredTables with
        | .ok _ => [Stage.validated store.path]
        | .error _ => [] := by
  rw [validate, Logged.events_bind]
  cases store.requireTables Schema.requiredTables <;> rfl

/-- The preparations of a store go through their stages. -/
theorem Parse.prepare_stages (store : Store) (metadataRequested : Bool) :
    PrepareStages store metadataRequested (prepare store metadataRequested).events
      (prepare store metadataRequested).outcome := by
  rw [prepare_outcome, prepare, Logged.events_bind, Store.validate_events, Store.validate_outcome]
  cases hchecked : store.requireTables Schema.requiredTables with
  | error failure => exact .invalid hchecked
  | ok =>
    cases metadataRequested with
    | false => exact .plain hchecked rfl
    | true =>
      simp only [if_true, Logged.events_bind, Metadata.extract_events]
      cases hextract : (Metadata.extract store).outcome with
      | error failure => exact .unrecorded hchecked rfl hextract
      | ok pair => exact .recorded hchecked rfl hextract

section Tables

variable {σ : Type} {sinks : Granularity → Sink σ} {store : Store}

lemma MatchCursor.query_events (store : Store) (granularity : Granularity) (width : Int) :
    (query store granularity width).events = [queried store granularity] := by
  rw [query, Logged.events_bind]
  cases store.execute (.matchesOf granularity) <;>
    simp [Logged.events_bind, Logged.log, Logged.ofExcept, pure]

/-- The delivery of some tables goes through their stages. -/
theorem Parse.deliverTables_stages (sinks : Granularity → Sink σ) (hopen : store.isOpen = true)
    (hchecked : store.requireTables Schema.requiredTables = .ok ()) (width : Int)
    (granularities : List Granularity) (state : σ) :
    TableStages store granularities (deliverTables store width sinks granularities state).events
      (deliverTables store width sinks granularities state).outcome := by
  induction granularities generalizing state with
  | nil => exact .nil
  | cons granularity others ih =>
    have hquery := MatchCursor.query_outcome store granularity width
    rw [Store.execute_matchesOf hopen hchecked granularity, Except.map] at hquery
    rw [deliverTables_cons, hquery, MatchCursor.query_events]
    simp only [dispatch, MatchCursor.feed]
    generalize hfeed : RowReader.feed ⟨store.path, granularity, width⟩ 0
      ((store.database.matchesOf granularity).map StoredMatch.fetch) = feed
    have hdelivered := delivered_deliver sinks granularity (some store.path) feed.failure 0
      feed.pairs state
    generalize Dispatch.deliver (sinks granularity) granularity (some store.path) feed.failure 0
      feed.pairs state = delivery at hdelivered
    cases hdelivered with
    | @completed last total hfailure htotal haccepts =>
      rw [← hfeed] at hfailure htotal
      rw [RowReader.length_pairs_feed hfailure, List.length_map, Nat.zero_add] at htotal
      exact .delivered htotal (ih last)
    | sourceFailed hfailure =>
      rw [← hfeed] at hfailure
      refine .stopped ?_
      rcases RowReader.read_of_feed_eq_some hfailure with hread | ⟨rfl, -⟩ | ⟨error, -, -, rfl⟩
      · exact hread.not_isRejection
      · simp [Failure.IsRejection]
      · simp [Failure.IsRejection]
    | @refused _ _ pair _ _ index complaint =>
      -- only a complaint that is passed on in other words is logged, and becomes a rejection
      cases hescape : complaint.escape? with
      | none =>
        simp only [Dispatch.refusal, Dispatch.refusalEvents, hescape]
        exact .rejected index pair hescape
      | some failure =>
        simp only [Dispatch.refusal, Dispatch.refusalEvents, hescape]
        refine .stopped ?_
        obtain ⟨rfl, name, text, rfl⟩ | ⟨name, kind, text, rfl, rfl⟩ :=
          Failure.escape?_eq_some hescape <;> simp [Failure.IsRejection]

end Tables

section Parse

variable {σ : Type}

/-- A parse goes through its stages before its events are marked with the path. -/
theorem Parse.run_stages (around : Surroundings) (request : ParseRequest)
    (sinks : Granularity → Sink σ) (state : σ) :
    Stages request (Store.openAt around request.given).outcome
      (run around request sinks state).events (run around request sinks state).store
      (run around request sinks state).outcome := by
  have hevents := Store.openAt_events around request.given
  rw [run]
  cases hopened : (Store.openAt around request.given).outcome with
  | error failure =>
    simp only [hevents, hopened]
    exact .notOpened rfl (Store.not_isRejection_of_openAt hopened)
  | ok store =>
    obtain ⟨hopen, hpath⟩ := Store.of_openAt hopened
    have hclose : store.close = ([Stage.closed store.path], { store with isOpen := false }) := by
      rw [Store.close, if_pos hopen]
      rfl
    have hprepare := prepare_stages store request.metadataRequested
    simp only [hevents, hopened, hclose, ← hpath]
    cases hprepared : (prepare store request.metadataRequested).outcome with
    | error failure =>
      rw [hprepared] at hprepare
      exact .unprepared rfl hpath hprepare
    | ok metadata =>
      rw [hprepared] at hprepare
      have hchecked := (Prepared.of_prepare hopened hprepared).requireTables_eq
      have htables := deliverTables_stages sinks hopen hchecked request.width Granularity.all state
      simp only
      cases hdelivered :
          (deliverTables store request.width sinks Granularity.all state).outcome with
      | error failure =>
        rw [hdelivered] at htables
        exact .halted rfl hpath hprepare htables
      | ok counts =>
        rw [hdelivered] at htables
        simp only [List.append_assoc]
        have hstages := Stages.completed rfl hpath hprepare htables rfl
        simpa using hstages

end Parse

/-! ### What the log says about the end -/

namespace LogEvent

/-- Whether an event has a name. -/
def isNamed (name : String) (event : LogEvent) : Bool := event.name == name

@[simp] lemma isNamed_iff {name : String} {event : LogEvent} :
    isNamed name event ↔ event.name = name := by
  simp [isNamed]

lemma filter_isNamed_eq_nil {events : List LogEvent} {names : List String} {name : String}
    (h : ∀ event ∈ events, event.name ∈ names) (hname : name ∉ names) :
    events.filter (isNamed name) = [] := by
  rw [List.filter_eq_nil_iff]
  intro event hevent hsame
  rw [isNamed_iff] at hsame
  exact hname (hsame ▸ h event hevent)

end LogEvent

section Names

variable (path : String) (granularity : Granularity) (pair : AddressPair)

@[simp] lemma Stage.name_opened : (opened path).name = "store_opened" := rfl

@[simp] lemma Stage.name_closed : (closed path).name = "store_closed" := rfl

@[simp] lemma Stage.name_validated : (validated path).name = "schema_validated" := rfl

@[simp] lemma Stage.name_extracted (pair : MetadataPair) :
    (extracted pair).name = "metadata_extracted" := rfl

@[simp] lemma MatchCursor.name_queried (store : Store) :
    (queried store granularity).name = "query_matches" := rfl

@[simp] lemma Dispatch.name_completed (count : Nat) :
    (completed granularity count).name = "matches_dispatched" := rfl

@[simp] lemma Dispatch.name_aborted (index : Nat) (complaint : Failure) :
    (aborted granularity index pair complaint).name = "dispatch_aborted" := rfl

@[simp] lemma Parse.name_parsed (result : ParseResult) (metadataRequested : Bool) :
    (parsed result metadataRequested).name = "diff_parsed" := rfl

end Names

lemma PrepareStages.name_mem {store : Store} {metadataRequested : Bool} {events : List LogEvent}
    {outcome : Except Failure (Option MetadataPair)}
    (h : PrepareStages store metadataRequested events outcome) :
    ∀ event ∈ events, event.name ∈ ["schema_validated", "metadata_extracted"] := by
  cases h <;> simp

lemma TableStages.name_mem {store : Store} {granularities : List Granularity}
    {events : List LogEvent} {outcome : Except Failure (List Nat)}
    (h : TableStages store granularities events outcome) :
    ∀ event ∈ events,
      event.name ∈ ["query_matches", "matches_dispatched", "dispatch_aborted"] := by
  induction h with
  | nil => simp
  | delivered _ _ ih =>
    exact List.forall_mem_cons.mpr ⟨by simp, List.forall_mem_cons.mpr ⟨by simp, ih⟩⟩
  | rejected | stopped => simp

lemma PrepareStages.not_isRejection {store : Store} {metadataRequested : Bool}
    {events : List LogEvent} {failure : Failure}
    (h : PrepareStages store metadataRequested events (.error failure)) :
    ¬ failure.IsRejection := by
  cases h with
  | invalid hchecked =>
    rcases Store.requireTables_failure hchecked with hread | ⟨error, rfl⟩
    · exact hread.not_isRejection
    · simp [Failure.IsRejection]
  | unrecorded _ _ hextract =>
    rcases Metadata.extract_failure hextract with hread | ⟨error, rfl⟩
    · exact hread.not_isRejection
    · simp [Failure.IsRejection]

/-- Whether a rejection is logged exactly if it is what comes of some work, and as what it is. -/
inductive LogsRejection {α : Type} (path : String) (events : List LogEvent)
    (outcome : Except Failure α) : Prop
  | silent : events.filter (LogEvent.isNamed "dispatch_aborted") = [] →
      (∀ failure, outcome = .error failure → ¬ failure.IsRejection) →
      LogsRejection path events outcome
  | logged (granularity : Granularity) (index : Nat) (pair : AddressPair) (complaint : Failure) :
      events.filter (LogEvent.isNamed "dispatch_aborted")
        = [Dispatch.aborted granularity index pair complaint] →
      outcome = .error (Dispatch.rejection granularity index pair (some path) complaint) →
      LogsRejection path events outcome

/-- What else is logged makes no difference, nor does what a success comes to. -/
lemma LogsRejection.congr {α β : Type} {path : String} {events others : List LogEvent}
    {outcome : Except Failure α} {other : Except Failure β} (h : LogsRejection path events outcome)
    (hfilter : others.filter (LogEvent.isNamed "dispatch_aborted")
      = events.filter (LogEvent.isNamed "dispatch_aborted"))
    (hsame : ∀ failure, other = .error failure ↔ outcome = .error failure) :
    LogsRejection path others other := by
  cases h with
  | silent hnone hfailure =>
    exact .silent (hfilter.trans hnone) fun failure hother => hfailure failure ((hsame _).mp hother)
  | logged granularity index pair complaint hlogged houtcome =>
    exact .logged granularity index pair complaint (hfilter.trans hlogged) ((hsame _).mpr houtcome)

lemma TableStages.logsRejection {store : Store} {granularities : List Granularity}
    {events : List LogEvent} {outcome : Except Failure (List Nat)}
    (h : TableStages store granularities events outcome) :
    LogsRejection store.path events outcome := by
  induction h with
  | nil => exact .silent rfl (by simp)
  | @delivered _ _ _ outcome _ _ _ ih =>
    refine ih.congr (by simp) fun failure => ?_
    cases outcome <;> simp [Except.map]
  | @rejected granularity _ index pair complaint =>
    exact .logged granularity index pair complaint (by simp) rfl
  | stopped hfailure =>
    refine .silent (by simp) ?_
    rintro failure ⟨⟩
    exact hfailure

/-- What the log of a parse says about how the parse has ended. -/
structure LogsEnd (request : ParseRequest) (events : List LogEvent) (store : Option Store)
    (outcome : Except Failure ParseResult) : Prop where
  /-- Without a store nothing is logged, and the parse fails. -/
  silent : store = none → events = [] ∧ ∃ failure, outcome = .error failure
  /-- A store that was opened is closed, once. -/
  closed : ∀ left, store = some left → left.isOpen = false ∧
    events.filter (LogEvent.isNamed "store_closed") = [Stage.closed request.given.shown]
  /-- A failure is logged by nothing after this. -/
  failed : ∀ failure, outcome = .error failure → store.isSome →
    ∃ earlier, events = earlier ++ [Stage.closed request.given.shown]
  /-- A success is logged after this, with the counts of the result. -/
  succeeded : ∀ result, outcome = .ok result → ∃ earlier, events = earlier ++
    [Stage.closed request.given.shown, Parse.parsed result request.metadataRequested]
  parsed : events.filter (LogEvent.isNamed "diff_parsed") = match outcome with
    | .ok result => [Parse.parsed result request.metadataRequested]
    | .error _ => []
  /-- A rejection is logged exactly if it ends the parse. -/
  rejected : LogsRejection request.given.shown events outcome

/-- A parse that goes through its stages logs its end. -/
theorem Stages.logsEnd {request : ParseRequest} {opening : Except Failure Store}
    {events : List LogEvent} {store : Option Store} {outcome : Except Failure ParseResult}
    (h : Stages request opening events store outcome) :
    LogsEnd request events store outcome := by
  -- the events in between have other names than those that are looked for
  have hpreparing : ∀ {store requested preparing outcome},
      PrepareStages store requested preparing outcome → ∀ {name : String},
      name ∉ ["schema_validated", "metadata_extracted"] →
      preparing.filter (LogEvent.isNamed name) = [] :=
    fun hstages _ hname => LogEvent.filter_isNamed_eq_nil hstages.name_mem hname
  have htables : ∀ {store granularities tables outcome},
      TableStages store granularities tables outcome → ∀ {name : String},
      name ∉ ["query_matches", "matches_dispatched", "dispatch_aborted"] →
      tables.filter (LogEvent.isNamed name) = [] :=
    fun hstages _ hname => LogEvent.filter_isNamed_eq_nil hstages.name_mem hname
  cases h with
  | @notOpened failure _ hfailure =>
    refine ⟨fun _ => ⟨rfl, failure, rfl⟩, by simp, by simp, by simp, rfl, .silent rfl ?_⟩
    rintro other ⟨⟩
    exact hfailure
  | @unprepared store preparing failure _ hpath hprepare =>
    refine ⟨by simp, ?_, ?_, by simp, ?_, ?_⟩
    · rintro left ⟨⟩
      refine ⟨rfl, ?_⟩
      simp [List.filter_append, hpreparing hprepare, hpath]
    · exact fun _ _ _ => ⟨Stage.opened store.path :: preparing, by rw [hpath]⟩
    · simp [List.filter_append, hpreparing hprepare]
    · refine .silent (by simp [List.filter_append, hpreparing hprepare]) ?_
      rintro other ⟨⟩
      exact hprepare.not_isRejection
  | @halted store preparing tables metadata failure _ hpath hprepare hhalted =>
    refine ⟨by simp, ?_, ?_, by simp, ?_, ?_⟩
    · rintro left ⟨⟩
      refine ⟨rfl, ?_⟩
      simp [List.filter_append, hpreparing hprepare, htables hhalted, hpath]
    · exact fun _ _ _ => ⟨Stage.opened store.path :: preparing ++ tables, by rw [hpath]⟩
    · simp [List.filter_append, hpreparing hprepare, htables hhalted]
    · rw [← hpath]
      exact hhalted.logsRejection.congr (by simp [List.filter_append, hpreparing hprepare])
        (by simp)
  | @completed store preparing tables metadata counts result _ hpath hprepare hdone hresult =>
    refine ⟨by simp, ?_, by simp, ?_, ?_, ?_⟩
    · rintro left ⟨⟩
      refine ⟨rfl, ?_⟩
      simp [List.filter_append, hpreparing hprepare, htables hdone, hpath]
    · rintro other ⟨⟩
      exact ⟨Stage.opened store.path :: preparing ++ tables, by rw [hpath]⟩
    · simp [List.filter_append, hpreparing hprepare, htables hdone]
    · rw [← hpath]
      exact hdone.logsRejection.congr (by simp [List.filter_append, hpreparing hprepare]) (by simp)

/-! ### What a parse leaves behind -/

/-- No cursor keeps its rows after the delivery of some tables, however that ends. -/
lemma Parse.held_of_mem_cursors {σ : Type} {store : Store} {width : Int}
    {sinks : Granularity → Sink σ} {granularities : List Granularity} {state : σ}
    {cursor : MatchCursor}
    (h : cursor ∈ (deliverTables store width sinks granularities state).cursors) :
    cursor.held = false := by
  induction granularities generalizing state with
  | nil => cases h
  | cons granularity others ih =>
    rw [deliverTables_cons] at h
    cases hquery : (MatchCursor.query store granularity width).outcome with
    | error failure =>
      rw [hquery] at h
      cases h
    | ok used =>
      simp only [hquery] at h
      split at h
      · rw [List.mem_singleton.mp h]
      · rcases List.mem_cons.mp h with rfl | hrest
        · rfl
        · exact ih hrest

lemma Parse.held_of_mem_run {σ : Type} {around : Surroundings} {request : ParseRequest}
    {sinks : Granularity → Sink σ} {state : σ} {cursor : MatchCursor}
    (h : cursor ∈ (run around request sinks state).cursors) : cursor.held = false := by
  rw [run] at h
  cases hopened : (Store.openAt around request.given).outcome with
  | error failure => simp [hopened] at h
  | ok store =>
    cases hprepared : (prepare store request.metadataRequested).outcome with
    | error failure => simp [hopened, hprepared] at h
    | ok metadata =>
      simp only [hopened, hprepared] at h
      split at h
      · exact held_of_mem_cursors h
      · exact held_of_mem_cursors h

lemma Bindings.set_set_self (bindings : Bindings) (key : String) (value : Option LogValue) :
    (bindings.set key value).set key (bindings key) = bindings := by
  funext other
  by_cases hother : other = key <;> simp [set, hother]

section Within

variable {σ : Type}

/-- Whatever the path was bound to before a parse, it is bound to that again afterwards, and the
parse is the same. -/
theorem parseWithin_eq {binder : Binder} (hbinder : binder.Restores) (bindings : Bindings)
    (around : Surroundings) (request : ParseRequest) (handovers : List Handover)
    (sinks : Granularity → Sink σ) (state : σ) :
    parseWithin binder bindings around request handovers sinks state
      = (parseInto around request handovers sinks state, bindings) := by
  rw [parseWithin, parseInto]
  cases handovers.mapM Handover.asSink with
  | error failure => rfl
  | ok wrapped =>
    have hmark : (bindings.set "diff_path" (some (.text request.given.shown))).mark "diff_path"
        = LogEvent.about request.given.shown := by
      funext event
      simp [Bindings.mark, Bindings.set, LogEvent.about]
    -- the parse itself leaves the bindings as the binder has set them
    simp only [Binder.during, hbinder.binds, hbinder.restores, Bindings.set_set_self, hmark, parse]

lemma Handover.not_isRejection_of_mapM {handovers : List Handover} {failure : Failure}
    (h : handovers.mapM asSink = .error failure) : ¬ failure.IsRejection := by
  induction handovers with
  | nil => cases h
  | cons handover handovers ih =>
    rw [List.mapM_cons] at h
    rcases Except.bind_eq_error h with hfirst | ⟨wrapped, -, hrest⟩
    · cases handover with
      | neither typeName =>
        cases hfirst
        simp [Failure.IsRejection]
      | object | function => cases hfirst
    · rcases Except.bind_eq_error hrest with hrest | ⟨others, -, hdone⟩
      · exact ih hrest
      · cases hdone

/-- The store that is opened to be parsed, which needs sinks to deliver to. -/
def Parse.opening (around : Surroundings) (request : ParseRequest) (handovers : List Handover) :
    Except Failure Store := do
  let _ ← handovers.mapM Handover.asSink
  (Store.openAt around request.given).outcome

/-- Every parse, however it ends, logs its stages up to that end, all of them marked with the path.
Then its store is closed, no cursor keeps its rows, and the path is bound in the log to what it was
bound to before. -/
theorem parseInto_stages {binder : Binder} (hbinder : binder.Restores) (bindings : Bindings)
    (around : Surroundings) (request : ParseRequest) (handovers : List Handover)
    (sinks : Granularity → Sink σ) (state : σ) :
    let report := parseInto around request handovers sinks state
    ∃ events, report.events = events.map (LogEvent.about request.given.shown) ∧
      Stages request (Parse.opening around request handovers) events report.store
        report.outcome ∧
      LogsEnd request events report.store report.outcome ∧
      (∀ cursor ∈ report.cursors, cursor.held = false) ∧
      parseWithin binder bindings around request handovers sinks state = (report, bindings) := by
  intro report
  have hwithin := parseWithin_eq hbinder bindings around request handovers sinks state
  cases hsinks : handovers.mapM Handover.asSink with
  | error failure =>
    have hreport : report = ⟨[], state, none, [], .error failure⟩ := by
      simp only [report, parseInto, hsinks]
    have hstages : Stages request (Parse.opening around request handovers) [] report.store
        report.outcome := by
      rw [hreport, Parse.opening, hsinks]
      exact .notOpened rfl (Handover.not_isRejection_of_mapM hsinks)
    refine ⟨[], ?_, hstages, hstages.logsEnd, ?_, hwithin⟩
    · rw [hreport]
      rfl
    · simp [hreport]
  | ok wrapped =>
    have hreport : report = parse around request sinks state := by
      simp only [report, parseInto, hsinks]
    have hstages : Stages request (Parse.opening around request handovers)
        (Parse.run around request sinks state).events report.store report.outcome := by
      rw [hreport, Parse.opening, hsinks]
      exact Parse.run_stages around request sinks state
    refine ⟨_, ?_, hstages, hstages.logsEnd, ?_, hwithin⟩
    · rw [hreport]
      rfl
    · intro cursor hcursor
      rw [hreport] at hcursor
      exact Parse.held_of_mem_run hcursor

end Within

namespace Sample

/-- A binder that keeps the name of a field and what it was bound to.  To give the field back it
first takes every value from it. -/
def saver : Binder where
  Saved := String × Option LogValue
  enter key value bindings := ((key, bindings key), bindings.set key (some value))
  leave
    | (key, some value), left => (left.set key none).set key (some value)
    | (key, none), left => left.set key none

lemma saver_restores : saver.Restores where
  binds _ _ _ := rfl
  restores key value bindings left := by
    funext other
    cases hbound : bindings key <;> by_cases hother : other = key <;>
      simp [saver, hbound, Bindings.set, hother]

/-- Bindings of one who parses another diff result at the time. -/
def bindings : Bindings := fun key => if key = "diff_path" then some (.text "outer.db") else none

end Sample

/-- In the sample, where the second match is rejected, the path is bound to the outer one again. -/
theorem parseInto_stages_sample :
    let handovers : List Handover := [.object, .function, .object]
    let sinks := Sample.refuseCall 1
    let report := parseInto Sample.around Sample.request handovers sinks 0
    Sample.saver.Restores ∧
      (∃ events, report.events = events.map (LogEvent.about "a.db") ∧
        Stages Sample.request (.ok Sample.store) events report.store report.outcome) ∧
      (∀ cursor ∈ report.cursors, cursor.held = false) ∧
      (parseWithin Sample.saver Sample.bindings Sample.around Sample.request handovers sinks 0).2
        "diff_path" = some (.text "outer.db") := by
  intro handovers sinks report
  obtain ⟨events, hevents, hstages, -, hcursors, hwithin⟩ := parseInto_stages
    Sample.saver_restores Sample.bindings Sample.around Sample.request handovers sinks 0
  exact ⟨Sample.saver_restores, ⟨events, hevents, hstages⟩, hcursors, by rw [hwithin]; rfl⟩

end BinaryDiff
