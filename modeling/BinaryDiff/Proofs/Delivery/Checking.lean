import BinaryDiff.Proofs.Delivery.EndToEnd
import BinaryDiff.Proofs.Store.Records
import BinaryDiff.Proofs.Text.Utf8

/-!
# Checks come before deliveries

A parse looks at its tables before it delivers anything: at the three match tables in their order,
and then at the table of records if these are wanted.  The first table at fault ends it, with a
complaint about that table and before any sink was called.  If no table is at fault every query can
be prepared; that a table or column is missing is never found out later (`parse_checks_first`).
-/

namespace BinaryDiff

/-! ### Complaints of the database -/

/-- What the database says of a query that it cannot prepare. -/
inductive Unprepared : String → Prop
  | table (name : String) : Unprepared s!"no such table: {name}"
  | column (name : String) : Unprepared s!"no such column: {name}"

namespace Database

lemma unprepared_of_places {table : Table} {columns : List String} {reason : String}
    (h : places table columns = .error reason) : Unprepared reason := by
  induction columns with
  | nil => cases h
  | cons column columns ih =>
    rw [places, List.mapM_cons] at h
    rcases Except.bind_eq_error h with hfirst | ⟨place, -, hrest⟩
    · split at hfirst
      · cases hfirst
      · cases hfirst
        exact .column column
    · rcases Except.bind_eq_error hrest with hrest | ⟨found, -, hdone⟩
      · exact ih hrest
      · cases hdone

lemma unprepared_of_select {database : Database} {name : String} {columns : List String}
    {reason : String} (h : database.select name columns = .error reason) : Unprepared reason := by
  rw [select] at h
  split at h
  · cases h
    exact .table name
  · rcases Except.bind_eq_error h with hplaces | ⟨places, -, hdone⟩
    · exact unprepared_of_places hplaces
    · cases hdone

lemma unprepared_of_selectOrdered {database : Database} {name : String} {columns : List String}
    {key reason : String} (h : database.selectOrdered name columns key = .error reason) :
    Unprepared reason := by
  rw [selectOrdered] at h
  split at h
  · cases h
    exact .table name
  · rcases Except.bind_eq_error h with hplaces | ⟨places, -, hkey⟩
    · exact unprepared_of_places hplaces
    · split at hkey
      · cases hkey
        exact .column key
      · cases hkey

end Database

/-- An open database says nothing else of a query for matches or records. -/
theorem Store.unprepared_of_execute {store : Store} (hopen : store.isOpen = true) {query : Query}
    {failure : Failure} (h : store.execute query = .error failure) :
    ∃ reason, failure = .diff (.unreadable store.path reason) ∧ Unprepared reason := by
  rw [execute_eq hopen] at h
  cases hanswer : store.database.answer query with
  | ok rows =>
    rw [hanswer] at h
    cases h
  | error reason =>
    rw [hanswer] at h
    cases h
    refine ⟨reason, rfl, ?_⟩
    cases query with
    | columnsOf table => cases hanswer
    | select table columns key =>
      cases key with
      | none => exact Database.unprepared_of_select hanswer
      | some key => exact Database.unprepared_of_selectOrdered hanswer

lemma head?_undecodableText (column : String) (bytes : List UInt8) :
    (undecodableText column bytes).toList.head? = some 'C' := by
  have hlead : Utf8.encode "Could not decode to UTF-8 column '"
      = 67 :: (Utf8.encode "Could not decode to UTF-8 column '").tail := by
    rw [Utf8.encode_eq]
    decide +kernel
  have htext : s!"Could not decode to UTF-8 column '{column}' with text '"
      = "Could not decode to UTF-8 column '" ++ (column ++ "' with text '") := by
    simp [toString, String.append_assoc]
  rw [undecodableText]
  simp only [htext, Utf8.encode_append]
  rw [hlead]
  simp [messagePlaces]

/-- A row that cannot be fetched is never complained about like that. -/
lemma not_unprepared_undecodableText (column : String) (bytes : List UInt8) :
    ¬ Unprepared (undecodableText column bytes) := by
  have hfirst := head?_undecodableText column bytes
  generalize undecodableText column bytes = reason at hfirst
  rintro (name | name) <;> simp [toString] at hfirst

lemma StoredMatch.not_unprepared_of_fetch {stored : StoredMatch} {error : ForeignError}
    (h : stored.fetch = .error error) : ¬ Unprepared error.text := by
  have hcell : ∀ {cell : StoredCell}, cell.fetch = .error error → ¬ Unprepared error.text := by
    rintro ⟨column, cell⟩ hfetch
    rw [StoredCell.fetch] at hfetch
    cases cell with
    | text bytes =>
      rw [Cell.fetch] at hfetch
      split at hfetch
      · cases hfetch
      · cases hfetch
        exact not_unprepared_undecodableText column bytes
    | null | integer | real | blob => cases hfetch
  rw [StoredMatch.fetch] at h
  rcases Except.bind_eq_error h with hprimary | ⟨primary, -, h⟩
  · exact hcell hprimary
  rcases Except.bind_eq_error h with hsecondary | ⟨secondary, -, hdone⟩
  · exact hcell hsecondary
  · cases hdone

/-! ### Tables at fault -/

/-- The tables that a parse looks at, in their order. -/
def Schema.checkedTables : List String :=
  Granularity.all.map Granularity.table ++ [metadataTable]

/-- Whether a table is not what a parse needs, which may want the records of the two binaries. -/
def Database.Faulty (database : Database) (metadataRequested : Bool) (table : String) : Prop :=
  (∃ granularity : Granularity, table = granularity.table ∧
      database.Lacks table Schema.matchColumns) ∨
    (metadataRequested ∧ table = Schema.metadataTable ∧
      (database.Lacks table Schema.metadataColumns ∨ database.Misrecorded))

lemma Granularity.table_ne_metadataTable (granularity : Granularity) :
    granularity.table ≠ Schema.metadataTable := by
  cases granularity <;> decide

section Prepare

variable {store : Store} {metadataRequested : Bool}

lemma Store.requireColumns_table (hopen : store.isOpen = true) (granularity : Granularity) :
    store.requireColumns granularity.table Schema.matchColumns = .ok () ↔
      ¬ store.database.Lacks granularity.table Schema.matchColumns :=
  requireColumns_eq_ok_iff_not_lacks hopen (Database.ownName_table granularity)
    (List.cons_ne_nil _ _)

lemma Store.requireTables_of_not_lacks (hopen : store.isOpen = true)
    {granularities : List Granularity} :
    store.requireTables
        (granularities.map fun granularity => (granularity.table, Schema.matchColumns)) = .ok () ↔
      ∀ granularity ∈ granularities,
        ¬ store.database.Lacks granularity.table Schema.matchColumns := by
  simp only [requireTables_eq_ok_iff, List.forall_mem_map, requireColumns_table hopen]

/-- The first table at fault ends the preparations, with a complaint about it. -/
theorem Parse.prepare_of_faulty (hopen : store.isOpen = true)
    (h : ∃ table ∈ Schema.checkedTables, store.database.Faulty metadataRequested table) :
    ∃ before table after failure, Schema.checkedTables = before ++ table :: after ∧
      (∀ earlier ∈ before, ¬ store.database.Faulty metadataRequested earlier) ∧
      store.database.Faulty metadataRequested table ∧ SchemaFailure store.path table failure ∧
      (Parse.prepare store metadataRequested).outcome = .error failure := by
  -- a match table is at fault only for what it lacks
  have hmatch : ∀ granularities : List Granularity,
      (∀ granularity ∈ granularities,
        ¬ store.database.Lacks granularity.table Schema.matchColumns) →
      ∀ earlier ∈ granularities.map Granularity.table,
        ¬ store.database.Faulty metadataRequested earlier := by
    intro granularities hlacks earlier hearlier
    obtain ⟨granularity, hmem, rfl⟩ := List.mem_map.mp hearlier
    rintro (⟨-, -, hlack⟩ | ⟨-, hmetadata, -⟩)
    · exact hlacks granularity hmem hlack
    · exact granularity.table_ne_metadataTable hmetadata
  rw [Parse.prepare_outcome]
  cases hchecked : store.requireTables Schema.requiredTables with
  | error failure =>
    obtain ⟨before, table, columns, after, hsplit, hbefore, hrequired⟩ :=
      Store.requireTables_eq_error_iff.mp hchecked
    obtain ⟨earlier, rest, hall, rfl, hrest⟩ := List.map_eq_append_iff.mp hsplit
    obtain ⟨granularity, later, rfl, hentry, -⟩ := List.map_eq_cons_iff.mp hrest
    cases hentry
    have hlacks : store.database.Lacks granularity.table Schema.matchColumns := by
      by_contra hlacks
      rw [(Store.requireColumns_table hopen granularity).mpr hlacks] at hrequired
      cases hrequired
    refine ⟨earlier.map Granularity.table, granularity.table,
      later.map Granularity.table ++ [Schema.metadataTable], failure, ?_,
      hmatch earlier ((Store.requireTables_of_not_lacks hopen).mp hbefore),
      .inl ⟨granularity, rfl, hlacks⟩, Store.schemaFailure_of_requireColumns hopen hrequired, rfl⟩
    rw [Schema.checkedTables, hall, List.map_append, List.map_cons, List.append_assoc,
      List.cons_append]
  | ok =>
    have hlacks := (Store.requireTables_of_not_lacks hopen).mp hchecked
    obtain ⟨table, htable, hfaulty⟩ := h
    have hrecords : metadataRequested ∧ table = Schema.metadataTable ∧
        (store.database.Lacks table Schema.metadataColumns ∨ store.database.Misrecorded) := by
      rcases hfaulty with ⟨granularity, rfl, hlack⟩ | hrecords
      · exact absurd hlack (hlacks granularity granularity.mem_all)
      · exact hrecords
    obtain ⟨hwanted, rfl, hwrong⟩ := hrecords
    obtain ⟨failure, hextract, hschema⟩ := Metadata.extract_of_misrecorded hopen hwrong
    refine ⟨Granularity.all.map Granularity.table, Schema.metadataTable, [], failure, rfl,
      hmatch Granularity.all hlacks, hfaulty, hschema, ?_⟩
    rw [if_pos hwanted, hextract]
    rfl

/-- If no table is at fault, every query can be prepared. -/
theorem Store.execute_of_not_faulty (hopen : store.isOpen = true)
    (h : ∀ table ∈ Schema.checkedTables, ¬ store.database.Faulty metadataRequested table) :
    (∀ granularity, ∃ rows, store.execute (.matchesOf granularity) = .ok rows) ∧
      (metadataRequested → ∃ rows, store.execute .metadata = .ok rows) := by
  have hlacks : ∀ granularity ∈ Granularity.all,
      ¬ store.database.Lacks granularity.table Schema.matchColumns := by
    intro granularity hmem hlack
    have hchecked : granularity.table ∈ Schema.checkedTables :=
      List.mem_append_left _ (List.mem_map_of_mem hmem)
    exact h _ hchecked (.inl ⟨granularity, rfl, hlack⟩)
  constructor
  · intro granularity
    have hrequired := (Store.requireTables_of_not_lacks hopen).mpr hlacks
    exact ⟨_, execute_matchesOf hopen hrequired granularity⟩
  · intro hwanted
    have hcomplete : ¬ store.database.Lacks Schema.metadataTable Schema.metadataColumns := by
      intro hlack
      exact h Schema.metadataTable (by simp [Schema.checkedTables])
        (.inr ⟨hwanted, rfl, .inl hlack⟩)
    obtain ⟨table, htable, hcolumns⟩ := Database.exists_table_of_not_lacks hcomplete
    exact ⟨_, Metadata.execute_metadata hopen htable hcolumns⟩

/-- No failure of the preparations is one of the database. -/
lemma Parse.prepare_failure (hopen : store.isOpen = true) {failure : Failure}
    (h : (Parse.prepare store metadataRequested).outcome = .error failure) (reason : String) :
    failure ≠ .diff (.unreadable store.path reason) := by
  rw [Parse.prepare_outcome] at h
  rcases Except.bind_eq_error h with hchecked | ⟨⟨⟩, -, h⟩
  · obtain ⟨before, table, columns, after, -, -, hrequired⟩ :=
      Store.requireTables_eq_error_iff.mp hchecked
    obtain ⟨⟩ := Store.schemaFailure_of_requireColumns hopen hrequired
    simp
  · split at h
    · rcases Except.bind_eq_error h with hextract | ⟨pair, -, hdone⟩
      · rcases Metadata.extract_failure_of_open hopen hextract with hschema | ⟨error, rfl⟩
        · cases hschema
          simp
        · simp
      · cases hdone
    · cases h

end Prepare

/-! ### Parses -/

section Parse

variable {σ : Type} {around : Surroundings} {request : ParseRequest} {store : Store}

lemma Prepared.of_prepare (hopened : (Store.openAt around request.given).outcome = .ok store)
    {metadata : Option MetadataPair}
    (h : (Parse.prepare store request.metadataRequested).outcome = .ok metadata) :
    Prepared around request store metadata := by
  rw [Parse.prepare_outcome] at h
  cases hchecked : store.requireTables Schema.requiredTables with
  | error failure => simp [hchecked, bind, Except.bind] at h
  | ok =>
    rw [hchecked] at h
    refine ⟨hopened, (Store.validate_outcome ..).trans hchecked, ?_⟩
    change (if request.metadataRequested then _ else _) = _ at h
    split at h
    · cases hextract : (Metadata.extract store).outcome with
      | error failure => simp [hextract, bind, Except.bind] at h
      | ok pair =>
        rw [hextract] at h
        cases h
        rename_i hwanted
        rw [if_pos hwanted]
        exact ⟨pair, rfl, rfl⟩
    · cases h
      rename_i hwanted
      rw [if_neg hwanted]

/-- A parse whose preparations fail leaves the sinks alone. -/
lemma parse_of_prepare_eq_error (hopened : (Store.openAt around request.given).outcome = .ok store)
    {failure : Failure}
    (h : (Parse.prepare store request.metadataRequested).outcome = .error failure)
    (sinks : Granularity → Sink σ) (state : σ) :
    (parse around request sinks state).state = state ∧
      (parse around request sinks state).outcome = .error failure := by
  rw [parse, Parse.run, hopened]
  simp only [h, and_self]

/-- A parse that succeeds has prepared its store. -/
lemma Prepared.of_parse {sinks : Granularity → Sink σ} {state : σ} {result : ParseResult}
    (h : (parse around request sinks state).outcome = .ok result) :
    ∃ store metadata, Prepared around request store metadata := by
  rw [parse_outcome] at h
  cases hopened : (Store.openAt around request.given).outcome with
  | error failure =>
    rw [hopened] at h
    cases h
  | ok store =>
    cases hprepare : (Parse.prepare store request.metadataRequested).outcome with
    | error failure => simp [hopened, hprepare, bind, Except.bind] at h
    | ok metadata => exact ⟨store, metadata, .of_prepare hopened hprepare⟩

/-- What a refusal of a sink becomes is no failure of the database. -/
lemma Dispatch.refusal_ne_unreadable {granularity : Granularity} {index : Nat} {pair : AddressPair}
    {path : Option String} {complaint : Failure} {shown reason : String} :
    Dispatch.refusal granularity index pair path complaint ≠ .diff (.unreadable shown reason) := by
  rw [Dispatch.refusal]
  cases complaint <;> rintro ⟨⟩

/-- After the preparations the store is found to be unreadable only for a row that cannot be
fetched. -/
lemma Prepared.not_unprepared {metadata : Option MetadataPair}
    (h : Prepared around request store metadata) {sinks : Granularity → Sink σ} {state : σ}
    {shown reason : String}
    (hfailed : (parse around request sinks state).outcome
      = .error (.diff (.unreadable shown reason))) : ¬ Unprepared reason := by
  have hqueried := Store.execute_matchesOf h.isOpen h.requireTables_eq
  rw [(h.parse_eq sinks state).2] at hfailed
  have hend := deliveryEnd_deliverTables sinks store request.width .plain Granularity.all state
  cases htables : (Parse.deliverTables store request.width sinks Granularity.all state).outcome with
  | ok counts =>
    rw [htables] at hfailed
    cases hfailed
  | error failure =>
    rw [htables] at hfailed hend
    have hunreadable : failure = .diff (.unreadable shown reason) := Except.error.inj hfailed
    cases hend with
    | @unqueried _ _ granularity _ _ hrows =>
      rw [hqueried granularity] at hrows
      cases hrows
    | @unread _ _ granularity rows _ _ hrows hunread =>
      rw [hqueried granularity] at hrows
      cases hrows
      rw [hunreadable] at hunread
      obtain ⟨error, hmem, rfl⟩ := RowReader.mem_of_feed_eq_unreadable hunread
      obtain ⟨stored, -, hfetch⟩ := List.mem_map.mp hmem
      exact StoredMatch.not_unprepared_of_fetch hfetch
    | refused => exact absurd hunreadable Dispatch.refusal_ne_unreadable

/-- A parse of an opened store looks at its tables before it calls any sink.  The first table at
fault ends it with a complaint about that table; if there is none, all queries can be prepared.  So
it never fails for want of a table or column. -/
theorem parse_checks_first (hopened : (Store.openAt around request.given).outcome = .ok store)
    (sinks : Granularity → Sink σ) (state : σ) :
    let report := parse around request (recording sinks) ⟨state, []⟩
    let faulty := store.database.Faulty request.metadataRequested
    report.mapState Record.state = parse around request sinks state ∧
      ((∃ table ∈ Schema.checkedTables, faulty table) →
        report.state.calls = [] ∧ ∃ before table after failure,
          Schema.checkedTables = before ++ table :: after ∧ (∀ earlier ∈ before, ¬ faulty earlier) ∧
          faulty table ∧ SchemaFailure request.given.shown table failure ∧
          report.outcome = .error failure) ∧
      ((∀ table ∈ Schema.checkedTables, ¬ faulty table) →
        (∀ granularity, ∃ rows, store.execute (.matchesOf granularity) = .ok rows) ∧
          (request.metadataRequested → ∃ rows, store.execute .metadata = .ok rows)) ∧
      ∀ reason, report.outcome = .error (.diff (.unreadable request.given.shown reason)) →
        ¬ Unprepared reason := by
  intro report faulty
  obtain ⟨hopen, hpath⟩ := Store.of_openAt hopened
  refine ⟨parse_recording around request sinks ⟨state, []⟩, ?_,
    Store.execute_of_not_faulty hopen, ?_⟩
  · intro hfaulty
    obtain ⟨before, table, after, failure, hsplit, hbefore, htable, hschema, hprepare⟩ :=
      Parse.prepare_of_faulty hopen hfaulty
    obtain ⟨hstate, houtcome⟩ :=
      parse_of_prepare_eq_error hopened hprepare (recording sinks) ⟨state, []⟩
    rw [hpath] at hschema
    exact ⟨congrArg Record.calls hstate, before, table, after, failure, hsplit, hbefore, htable,
      hschema, houtcome⟩
  · intro reason hreason
    cases hprepare : (Parse.prepare store request.metadataRequested).outcome with
    | error failure =>
      obtain ⟨-, houtcome⟩ :=
        parse_of_prepare_eq_error hopened hprepare (recording sinks) ⟨state, []⟩
      have hsame : failure = .diff (.unreadable store.path reason) := by
        rw [hpath]
        exact Except.error.inj (houtcome.symm.trans hreason)
      exact absurd hsame (Parse.prepare_failure hopen hprepare reason)
    | ok metadata =>
      -- only a row can fail now, when it is fetched
      exact (Prepared.of_prepare hopened hprepare).not_unprepared hreason

/-- A database whose basic blocks have an address column in other letters than it is required in. -/
def Sample.incomplete : Database :=
  ⟨[⟨"function", ["address1", "address2"], [[.integer 1, .integer 2]]⟩,
    ⟨"basicblock", ["address1", "Address2"], []⟩]⟩

/-- A query would find this column, but the parse complains before it calls any sink. -/
theorem parse_checks_first_sample :
    let around : Surroundings :=
      ⟨⟨[(["a.db"], .file (.database Sample.incomplete false))]⟩, ⟨1, []⟩, ⟨1, []⟩, [], []⟩
    let report := parse around Sample.request (recording (Sample.refuseCall 1)) ⟨0, []⟩
    (Store.openAt around Sample.request.given).outcome
        = .ok ⟨"a.db", Sample.incomplete, true⟩ ∧
      Sample.incomplete.Faulty true "basicblock" ∧ report.state.calls = [] ∧
      ∃ table failure, SchemaFailure "a.db" table failure ∧ report.outcome = .error failure := by
  intro around report
  have hopened : (Store.openAt around Sample.request.given).outcome
      = .ok ⟨"a.db", Sample.incomplete, true⟩ := rfl
  have hlacks : Sample.incomplete.Lacks "basicblock" Schema.matchColumns := by
    intro table htable
    cases htable
    decide
  have hfaulty : Sample.incomplete.Faulty true "basicblock" := .inl ⟨.basicBlock, rfl, hlacks⟩
  obtain ⟨-, hchecks, -⟩ := parse_checks_first hopened (Sample.refuseCall 1) 0
  obtain ⟨hcalls, -, table, -, failure, -, -, -, hschema, houtcome⟩ :=
    hchecks ⟨"basicblock", by decide, hfaulty⟩
  exact ⟨hopened, hfaulty, hcalls, table, failure, hschema, houtcome⟩

end Parse
end BinaryDiff
