import BinaryDiff.Proofs.Delivery.Stages

/-!
# Records and matches do not interfere

A parse that does not want the records of the two binaries is the same over any two databases with
the same match tables: every step of it that looks at the database asks for one of these tables
only (`Store.SameMatches`).  A parse that wants them either fails because of them, before it calls
any sink, or goes on like one that does not (`parse_ignores_records`).
-/

namespace BinaryDiff

/-- Whether two databases have the same match tables; everything else may differ. -/
def Database.SameMatches (database other : Database) : Prop :=
  ∀ granularity : Granularity,
    database.table? granularity.table = other.table? granularity.table

/-- Whether two stores cannot be told apart by their match tables. -/
structure Store.SameMatches (store other : Store) : Prop where
  path : store.path = other.path
  isOpen : store.isOpen = other.isOpen
  tables : store.database.SameMatches other.database

namespace Store.SameMatches

variable {store other : Store}

lemma execute_congr (h : store.SameMatches other) {query : Query}
    (hanswer : store.database.answer query = other.database.answer query) :
    store.execute query = other.execute query := by
  simp only [Store.execute, Host.plain, hanswer, h.path, h.isOpen]

lemma execute (h : store.SameMatches other) (granularity : Granularity) :
    store.execute (.matchesOf granularity) = other.execute (.matchesOf granularity) := by
  refine h.execute_congr ?_
  simp only [Query.matchesOf, Database.answer, Database.select, h.tables granularity]

lemma columnNames (h : store.SameMatches other) (granularity : Granularity) :
    store.database.columnNames granularity.table
      = other.database.columnNames granularity.table := by
  have hname := (Database.ownName_table granularity).1
  simp only [Database.columnNames, hname, h.tables granularity]

lemma requireTables (h : store.SameMatches other) (granularities : List Granularity) :
    store.requireTables
        (granularities.map fun granularity => (granularity.table, Schema.matchColumns))
      = other.requireTables
        (granularities.map fun granularity => (granularity.table, Schema.matchColumns)) := by
  induction granularities with
  | nil => rfl
  | cons granularity others ih =>
    have hexecute : store.execute (.columnsOf granularity.table)
        = other.execute (.columnsOf granularity.table) := by
      refine h.execute_congr ?_
      simp only [Database.answer, h.columnNames granularity]
    have hcolumns : store.requireColumns granularity.table Schema.matchColumns
        = other.requireColumns granularity.table Schema.matchColumns := by
      simp only [requireColumns, tableColumns, hexecute, h.path]
    rw [List.map_cons, Store.requireTables, Store.requireTables, hcolumns, ih]

/-- Without the records, both stores are prepared alike. -/
lemma prepare (h : store.SameMatches other) :
    Parse.prepare store false = Parse.prepare other false := by
  have hvalidate : store.validate Schema.requiredTables = other.validate Schema.requiredTables := by
    rw [validate, validate, Schema.requiredTables, h.requireTables, h.path]
  rw [Parse.prepare, Parse.prepare, hvalidate]
  rfl

lemma query (h : store.SameMatches other) (granularity : Granularity) (width : Int) :
    MatchCursor.query store granularity width = MatchCursor.query other granularity width := by
  rw [MatchCursor.query, MatchCursor.query, h.execute, MatchCursor.queried, MatchCursor.queried,
    h.path]

/-- The tables of both stores are delivered alike. -/
theorem deliverTables {σ : Type} (h : store.SameMatches other) (width : Int)
    (sinks : Granularity → Sink σ) (granularities : List Granularity) (state : σ) :
    Parse.deliverTables store width sinks granularities state
      = Parse.deliverTables other width sinks granularities state := by
  induction granularities generalizing state with
  | nil => rfl
  | cons granularity others ih =>
    rw [Parse.deliverTables_cons, Parse.deliverTables_cons, h.query, h.path]
    simp only [ih]

end Store.SameMatches

variable {σ : Type}

/-- Without the records, a parse of one store is a parse of any other with the same match tables,
but for the store that it leaves. -/
theorem parse_congr {around elsewhere : Surroundings} {given : GivenPath} {store other : Store}
    (hopened : (Store.openAt around given).outcome = .ok store)
    (helsewhere : (Store.openAt elsewhere given).outcome = .ok other)
    (htables : store.database.SameMatches other.database) (width : Int)
    (sinks : Granularity → Sink σ) (state : σ) :
    { parse around ⟨given, false, width⟩ sinks state with store := none }
      = { parse elsewhere ⟨given, false, width⟩ sinks state with store := none } := by
  obtain ⟨hopen, hpath⟩ := Store.of_openAt hopened
  obtain ⟨hotherOpen, hotherPath⟩ := Store.of_openAt helsewhere
  have hsame : store.SameMatches other :=
    ⟨hpath.trans hotherPath.symm, hopen.trans hotherOpen.symm, htables⟩
  have hevents : (Store.openAt around given).events = (Store.openAt elsewhere given).events := by
    rw [Store.openAt_events, Store.openAt_events, hopened, helsewhere]
  have hclosing : store.close.1 = other.close.1 := by
    rw [Store.close, Store.close, if_pos hopen, if_pos hotherOpen, hsame.path]
  rw [parse, parse, Parse.run, Parse.run, hopened, helsewhere]
  simp only [hevents, hclosing, hsame.prepare, hsame.deliverTables]
  cases hprepared : (Parse.prepare other false).outcome with
  | error failure => rfl
  | ok metadata =>
    simp only
    cases (Parse.deliverTables other width sinks Granularity.all state).outcome <;> rfl

/-- What becomes of a parse when the records are wanted that it did without: it fails before any
sink was called, or it ends as before, with the records in its result. -/
theorem parse_with_records (around : Surroundings) (given : GivenPath) (width : Int)
    (sinks : Granularity → Sink σ) (state : σ) :
    let wanting := parse around ⟨given, true, width⟩ sinks state
    let plain := parse around ⟨given, false, width⟩ sinks state
    (wanting.state = state ∧ ∃ failure, wanting.outcome = .error failure) ∨
      wanting.state = plain.state ∧
        wanting.outcome.map (fun result => { result with metadata := none }) = plain.outcome ∧
        ∀ result, wanting.outcome = .ok result → result.metadata.isSome := by
  intro wanting plain
  cases hopened : (Store.openAt around given).outcome with
  | error failure =>
    have hwanting : wanting.state = state ∧ wanting.outcome = .error failure := by
      simp only [wanting, parse, Parse.run, hopened, and_self]
    exact .inl ⟨hwanting.1, failure, hwanting.2⟩
  | ok store =>
    cases hprepared : (Parse.prepare store true).outcome with
    | error failure =>
      have hwanting : wanting.state = state ∧ wanting.outcome = .error failure :=
        parse_of_prepare_eq_error hopened hprepared sinks state
      exact .inl ⟨hwanting.1, failure, hwanting.2⟩
    | ok metadata =>
      -- what was prepared with the records is prepared without them, and delivers the same tables
      have hwith : Prepared around ⟨given, true, width⟩ store metadata :=
        .of_prepare hopened hprepared
      have hwithout : Prepared around ⟨given, false, width⟩ store none :=
        ⟨hopened, hwith.checked, rfl⟩
      obtain ⟨hstate, houtcome⟩ := hwith.parse_eq sinks state
      obtain ⟨hplainState, hplainOutcome⟩ := hwithout.parse_eq sinks state
      refine .inr ⟨hstate.trans hplainState.symm, ?_, ?_⟩
      · change (parse around ⟨given, true, width⟩ sinks state).outcome.map _ = _
        rw [houtcome, hplainOutcome]
        cases (Parse.deliverTables store width sinks Granularity.all state).outcome <;> rfl
      · intro result hresult
        change (parse around ⟨given, true, width⟩ sinks state).outcome = _ at hresult
        rw [houtcome] at hresult
        cases hcounts : (Parse.deliverTables store width sinks Granularity.all state).outcome with
        | error failure =>
          rw [hcounts] at hresult
          cases hresult
        | ok counts =>
          rw [hcounts] at hresult
          cases hresult
          exact hwith.isSome_metadata

/-- Without the records there are none in the result. -/
lemma parse_without_records {around : Surroundings} {given : GivenPath} {width : Int}
    {sinks : Granularity → Sink σ} {state : σ} {result : ParseResult}
    (h : (parse around ⟨given, false, width⟩ sinks state).outcome = .ok result) :
    result.metadata = none := by
  cases hopened : (Store.openAt around given).outcome with
  | error failure =>
    simp only [parse, Parse.run, hopened] at h
    cases h
  | ok store =>
    cases hprepared : (Parse.prepare store false).outcome with
    | error failure =>
      have hfailed : (parse around ⟨given, false, width⟩ sinks state).outcome = .error failure :=
        (parse_of_prepare_eq_error hopened hprepared sinks state).2
      rw [hfailed] at h
      cases h
    | ok metadata =>
      have hready : Prepared around ⟨given, false, width⟩ store metadata :=
        .of_prepare hopened hprepared
      have hnone : metadata = none := hready.recorded
      rw [(hready.parse_eq sinks state).2, hnone] at h
      cases hcounts : (Parse.deliverTables store width sinks Granularity.all state).outcome with
      | error failure =>
        rw [hcounts] at h
        cases h
      | ok counts =>
        rw [hcounts] at h
        cases h
        rfl

/-- A parse that does not want the records does the same on any two databases with the same match
tables: it makes the same calls and has the same outcome, without records, and even its log and its
cursors are the same.  A parse that wants them either fails before it calls any sink, or makes the
same calls as one that does not, with the same outcome but for the records in its result. -/
theorem parse_ignores_records (given : GivenPath) (width : Int) (sinks : Granularity → Sink σ)
    (state : σ) :
    let report := fun (around : Surroundings) (wanted : Bool) =>
      parse around ⟨given, wanted, width⟩ (recording sinks) ⟨state, []⟩
    (∀ (around elsewhere : Surroundings) (store other : Store),
        (Store.openAt around given).outcome = .ok store →
        (Store.openAt elsewhere given).outcome = .ok other →
        store.database.SameMatches other.database →
        { report around false with store := none } = { report elsewhere false with store := none } ∧
          ∀ result, (report around false).outcome = .ok result → result.metadata = none) ∧
      ∀ around : Surroundings,
        ((report around true).state.calls = [] ∧
            ∃ failure, (report around true).outcome = .error failure) ∨
          (report around true).state = (report around false).state ∧
            (report around true).outcome.map (fun result => { result with metadata := none })
              = (report around false).outcome ∧
            ∀ result, (report around true).outcome = .ok result → result.metadata.isSome := by
  intro report
  constructor
  · intro around elsewhere store other hopened helsewhere hsame
    exact ⟨parse_congr hopened helsewhere hsame width (recording sinks) ⟨state, []⟩,
      fun result hresult => parse_without_records hresult⟩
  · intro around
    rcases parse_with_records around given width (recording sinks) ⟨state, []⟩ with
      ⟨hstate, hfailure⟩ | hsame
    · exact .inl ⟨congrArg Record.calls hstate, hfailure⟩
    · exact .inr hsame

/-- The sample without the records of the two binaries. -/
def Sample.unrecorded : Surroundings :=
  ⟨⟨[(["a.db"], .file (.database ⟨Sample.database.tables.dropLast⟩ false))]⟩, ⟨1, []⟩, ⟨1, []⟩, [],
    []⟩

/-- In the sample the records can be taken away without a sink noticing. -/
theorem parse_ignores_records_sample :
    Sample.database.SameMatches ⟨Sample.database.tables.dropLast⟩ ∧
      (parse Sample.around ⟨.ofText "a.db", false, 64⟩ (recording (Sample.refuseCall 4))
          ⟨0, []⟩).state.calls
        = (parse Sample.unrecorded ⟨.ofText "a.db", false, 64⟩ (recording (Sample.refuseCall 4))
          ⟨0, []⟩).state.calls := by
  have hsame : Sample.database.SameMatches ⟨Sample.database.tables.dropLast⟩ := by
    rintro (_ | _ | _) <;> rfl
  have hreports := ((parse_ignores_records (.ofText "a.db") 64 (Sample.refuseCall 4) 0).1
    Sample.around Sample.unrecorded Sample.store ⟨"a.db", ⟨Sample.database.tables.dropLast⟩, true⟩
    rfl rfl hsame).1
  exact ⟨hsame, congrArg (fun report => report.state.calls) hreports⟩

end BinaryDiff
