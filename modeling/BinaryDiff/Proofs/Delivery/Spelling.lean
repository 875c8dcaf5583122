import BinaryDiff.Proofs.Delivery.Checking

/-!
# What the schema check refuses

Queries know a column by its name in any case of letters, but the schema check wants it written like
the name.  So of the tables that could be queried the check refuses those in which one of the
columns is misspelt in this sense, and no others; it says of them that they lack columns, and never
that they are missing (`Store.refuses_misspelt`).
-/

namespace BinaryDiff

/-- The tables that the queries of a parse read, with the columns that are required of them. -/
inductive Query.Reads : Query → String → List String → Prop
  | matchesOf (granularity : Granularity) :
      Reads (.matchesOf granularity) granularity.table Schema.matchColumns
  | metadata : Reads .metadata Schema.metadataTable Schema.metadataColumns

/-- Whether queries know a table with some columns, one of which is written there in letters of
another case only. -/
def Database.Misspelt (database : Database) (name : String) (columns : List String) : Prop :=
  ∃ table, database.table? name = some table ∧ (∀ column ∈ columns, table.Knows column) ∧
    ∃ column ∈ columns, column ∉ table.columns

/-- The complaint about a table for the columns that it lacks, which shows all that it has. -/
def Schema.missingColumns (path name : String) (columns present : List String) : Failure :=
  .diff (.schema path name "missing columns" (some (.text (", ".intercalate columns)))
    (some (.text (", ".intercalate (present.mergeSort (· ≤ ·))))))

/-! ### One table -/

namespace Query.Reads

variable {query : Query} {name : String} {columns : List String}

lemma ownName (h : query.Reads name columns) : Database.OwnName name := by
  cases h with
  | matchesOf granularity => exact Database.ownName_table granularity
  | metadata => exact Database.ownName_metadataTable

lemma columns_ne_nil (h : query.Reads name columns) : columns ≠ [] := by
  cases h <;> exact List.cons_ne_nil _ _

/-- A query can be prepared exactly if the table and all columns that are required of it are
known. -/
lemma execute_iff_knows (h : query.Reads name columns) {store : Store}
    (hopen : store.isOpen = true) :
    (∃ rows, store.execute query = .ok rows) ↔ store.database.Knows name columns := by
  simp only [Store.execute_eq_ok_iff hopen]
  cases h with
  | matchesOf granularity =>
    simp only [Query.matchesOf, Database.answer, Database.select_eq_ok_iff]
    constructor
    · rintro ⟨rows, table, htable, hknows, -⟩
      exact ⟨table, htable, hknows⟩
    · rintro ⟨table, htable, hknows⟩
      exact ⟨_, table, htable, hknows, rfl⟩
  | metadata =>
    simp only [Query.metadata, Database.answer, Database.selectOrdered_eq_ok_iff]
    constructor
    · rintro ⟨rows, table, htable, hknows, -⟩
      exact ⟨table, htable, hknows⟩
    · rintro ⟨table, htable, hknows⟩
      exact ⟨_, table, htable, hknows, rfl⟩

end Query.Reads

lemma Database.Knows.lacks_iff {database : Database} {name : String} {columns : List String}
    (h : database.Knows name columns) :
    database.Lacks name columns ↔ database.Misspelt name columns := by
  obtain ⟨table, htable, hknows⟩ := h
  constructor
  · intro hlacks
    exact ⟨table, htable, hknows, hlacks table htable⟩
  · rintro ⟨misspelt, hmisspelt, -, hcolumn⟩ other hother
    cases hmisspelt.symm.trans hother
    exact hcolumn

namespace Store

variable {store : Store} {name : String} {columns : List String}

lemma requireColumns_of_misspelt (hopen : store.isOpen = true) (hname : Database.OwnName name)
    (h : store.database.Misspelt name columns) :
    ∃ table, store.database.table? name = some table ∧
      store.requireColumns name columns
        = .error (Schema.missingColumns store.path name columns table.columns) := by
  obtain ⟨table, htable, hknows, column, hcolumn, hmissing⟩ := h
  refine ⟨table, htable, ?_⟩
  have hnames : store.database.columnNames name = table.columns := by
    rw [Database.columnNames, hname.1, htable]
  -- the table is there, for it has the column in other letters
  obtain ⟨written, hwritten, -⟩ := hknows column hcolumn
  have hpresent : (table.columns.mergeSort (· ≤ ·)).isEmpty = false :=
    List.isEmpty_eq_false_iff.mpr (List.ne_nil_of_mem (List.mem_mergeSort.mpr hwritten))
  have hall : (columns.all fun column => (table.columns.mergeSort (· ≤ ·)).contains column)
      = false := by
    rw [List.all_eq_false]
    refine ⟨column, hcolumn, ?_⟩
    rwa [List.contains_iff_mem, List.mem_mergeSort]
  rw [requireColumns, tableColumns_eq hopen, hnames]
  change (if _ then _ else if _ then _ else _) = _
  rw [if_neg (by rw [hpresent]; exact Bool.false_ne_true),
    if_neg (by rw [hall]; exact Bool.false_ne_true)]
  rfl

end Store

/-! ### All tables -/

lemma Schema.reads_of_mem_checked {metadataRequested : Bool} {entry : String × List String}
    (h : entry ∈ checked metadataRequested) :
    ∃ query : Query, query.Reads entry.1 entry.2 ∧
      (query = .metadata → metadataRequested = true) := by
  rcases List.mem_append.mp h with h | h
  · obtain ⟨granularity, -, rfl⟩ := List.mem_map.mp h
    refine ⟨_, .matchesOf granularity, fun hrecords => ?_⟩
    -- matches are not sorted
    injection hrecords with _ _ hkey
    cases hkey
  · cases metadataRequested with
    | false => cases h
    | true =>
      cases List.mem_singleton.mp h
      exact ⟨_, .metadata, fun _ => rfl⟩

/-- A failure of the checks is one of the preparations. -/
lemma Parse.prepare_of_requireTables {store : Store} {metadataRequested : Bool} {failure : Failure}
    (h : store.requireTables (Schema.checked metadataRequested) = .error failure) :
    (Parse.prepare store metadataRequested).outcome = .error failure := by
  rw [Parse.prepare_checks, h]
  rfl

/-! ### What is refused -/

section

variable {store : Store} {query : Query} {name : String} {columns : List String}

lemma Query.Reads.requireColumns_iff (h : query.Reads name columns) (hopen : store.isOpen = true)
    (hprepared : ∃ rows, store.execute query = .ok rows) :
    store.requireColumns name columns = .ok () ↔ ¬ store.database.Misspelt name columns := by
  have hknows := (h.execute_iff_knows hopen).mp hprepared
  rw [Store.requireColumns_eq_ok_iff_not_lacks hopen h.ownName h.columns_ne_nil, hknows.lacks_iff]

/-- If all queries can be prepared, a parse accepts the tables in which nothing is misspelt. -/
lemma Schema.requireColumns_of_mem_checked {metadataRequested : Bool}
    {entry : String × List String} (hentry : entry ∈ checked metadataRequested)
    (hopen : store.isOpen = true)
    (hmatches : ∀ granularity, ∃ rows, store.execute (.matchesOf granularity) = .ok rows)
    (hrecords : metadataRequested → ∃ rows, store.execute .metadata = .ok rows) :
    store.requireColumns entry.1 entry.2 = .ok () ↔
      ¬ store.database.Misspelt entry.1 entry.2 := by
  obtain ⟨name, columns⟩ := entry
  obtain ⟨query, hreads, hwanted⟩ := reads_of_mem_checked hentry
  refine hreads.requireColumns_iff hopen ?_
  change query.Reads name columns at hreads
  cases hreads with
  | matchesOf granularity => exact hmatches granularity
  | metadata => exact hrecords (hwanted rfl)

/-- Of the tables of an open store whose query can be prepared, the schema check refuses exactly
those in which a column is misspelt, with a complaint about missing columns.  So a parse of a store
whose queries can all be prepared passes its checks exactly if nothing is misspelt in any table;
else the complaint about the first table with a misspelt column ends it, and no sink is called. -/
theorem Store.refuses_misspelt (hopen : store.isOpen = true) :
    (∀ {query : Query} {name : String} {columns : List String}, query.Reads name columns →
      (∃ rows, store.execute query = .ok rows) →
        (store.requireColumns name columns = .ok () ↔ ¬ store.database.Misspelt name columns) ∧
        (store.database.Misspelt name columns → ∃ table,
          store.database.table? name = some table ∧ store.requireColumns name columns
            = .error (Schema.missingColumns store.path name columns table.columns))) ∧
    ∀ {σ : Type} {around : Surroundings} {request : ParseRequest},
      (Store.openAt around request.given).outcome = .ok store →
      (∀ granularity, ∃ rows, store.execute (.matchesOf granularity) = .ok rows) →
      (request.metadataRequested → ∃ rows, store.execute .metadata = .ok rows) →
        let tables := Schema.checked request.metadataRequested
        (store.requireTables tables = .ok () ↔
          ∀ entry ∈ tables, ¬ store.database.Misspelt entry.1 entry.2) ∧
        ∀ before name columns after, tables = before ++ (name, columns) :: after →
          (∀ entry ∈ before, ¬ store.database.Misspelt entry.1 entry.2) →
          store.database.Misspelt name columns →
            ∃ table, store.database.table? name = some table ∧
              ∀ (sinks : Granularity → Sink σ) state,
                (parse around request sinks state).state = state ∧
                (parse around request sinks state).outcome
                  = .error (Schema.missingColumns request.given.shown name columns
                      table.columns) := by
  refine ⟨fun hreads hprepared => ⟨hreads.requireColumns_iff hopen hprepared,
    requireColumns_of_misspelt hopen hreads.ownName⟩, ?_⟩
  intro σ around request hopened hmatches hrecords tables
  have haccepts : ∀ entry ∈ tables, store.requireColumns entry.1 entry.2 = .ok () ↔
      ¬ store.database.Misspelt entry.1 entry.2 := fun entry hentry =>
    Schema.requireColumns_of_mem_checked hentry hopen hmatches hrecords
  refine ⟨?_, fun before name columns after hsplit hbefore hmisspelt => ?_⟩
  · rw [Store.requireTables_eq_ok_iff]
    exact forall₂_congr haccepts
  · have hall : ∀ entry ∈ before ++ (name, columns) :: after, entry ∈ tables :=
      fun entry hentry => hsplit ▸ hentry
    obtain ⟨query, hreads, -⟩ := Schema.reads_of_mem_checked (hall (name, columns) (by simp))
    obtain ⟨table, htable, hrefused⟩ := requireColumns_of_misspelt hopen hreads.ownName hmisspelt
    have hfirst : ∀ entry ∈ before, store.requireColumns entry.1 entry.2 = .ok () :=
      fun entry hentry =>
        (haccepts entry (hall entry (List.mem_append_left _ hentry))).mpr (hbefore entry hentry)
    have hchecks : store.requireTables tables
        = .error (Schema.missingColumns store.path name columns table.columns) := by
      exact requireTables_eq_error_iff.mpr
        ⟨_, _, _, _, hsplit, requireTables_eq_ok_iff.mpr hfirst, hrefused⟩
    rw [(Store.of_openAt hopened).2] at hchecks
    exact ⟨table, htable, fun sinks state =>
      parse_of_prepare_eq_error hopened (Parse.prepare_of_requireTables hchecks) sinks state⟩

end

namespace Sample

/-- A database with a match of functions and one of instructions, of whose table a column is written
in capital letters. -/
def capital : Database :=
  ⟨[⟨"function", ["address1", "address2"], [[.integer 1, .integer 2]]⟩,
    ⟨"basicblock", ["address1", "address2"], []⟩,
    ⟨"instruction", ["address1", "ADDRESS2"], [[.integer 3, .integer 4]]⟩]⟩

/-- A file system with this database in the file `a.db`. -/
def aroundCapital : Surroundings :=
  ⟨⟨[(["a.db"], .file (.database capital false))]⟩, ⟨1, []⟩, ⟨1, []⟩, [], []⟩

/-- The opened database. -/
def capitalStore : Store := ⟨"a.db", capital, true⟩

lemma execute_capitalStore (granularity : Granularity) :
    ∃ rows, capitalStore.execute (.matchesOf granularity) = .ok rows := by
  cases granularity <;> exact ⟨_, rfl⟩

lemma misspelt_capital : capital.Misspelt "instruction" Schema.matchColumns :=
  ⟨_, rfl, by decide, by decide⟩

end Sample

/-- In the sample all matches could be read, and the parse complains about the last table. -/
theorem Store.refuses_misspelt_sample :
    (Store.openAt Sample.aroundCapital (.ofText "a.db")).outcome = .ok Sample.capitalStore ∧
      (∀ granularity, ∃ rows, Sample.capitalStore.execute (.matchesOf granularity) = .ok rows) ∧
      Sample.capital.Misspelt "instruction" Schema.matchColumns ∧
      Sample.capitalStore.requireColumns "instruction" Schema.matchColumns ≠ .ok () ∧
      (parse Sample.aroundCapital ⟨.ofText "a.db", false, 64⟩ (Sample.refuseCall 0) 0).outcome
        = .error (.diff (.schema "a.db" "instruction" "missing columns"
            (some (.text "address1, address2")) (some (.text "ADDRESS2, address1")))) := by
  have hopened : (Store.openAt Sample.aroundCapital (.ofText "a.db")).outcome
      = .ok Sample.capitalStore := rfl
  have hbefore : ∀ entry ∈ [("function", Schema.matchColumns), ("basicblock", Schema.matchColumns)],
      ¬ Sample.capital.Misspelt entry.1 entry.2 := by
    rintro entry hentry ⟨table, htable, -, column, hcolumn, hmissing⟩
    simp only [List.mem_cons, List.not_mem_nil, or_false] at hentry
    rcases hentry with rfl | rfl <;> cases htable <;> exact hmissing hcolumn
  have hopen : Sample.capitalStore.isOpen = true := rfl
  have hchecked := ((Store.refuses_misspelt hopen).1 (.matchesOf .instruction)
    (Sample.execute_capitalStore .instruction)).1
  obtain ⟨-, hrefuses⟩ := @(Store.refuses_misspelt hopen).2 Nat Sample.aroundCapital
    ⟨.ofText "a.db", false, 64⟩ hopened Sample.execute_capitalStore nofun
  obtain ⟨table, htable, houtcome⟩ := hrefuses _ "instruction" Schema.matchColumns [] rfl hbefore
    Sample.misspelt_capital
  cases htable
  refine ⟨hopened, Sample.execute_capitalStore, Sample.misspelt_capital,
    fun hok => hchecked.mp hok Sample.misspelt_capital, ?_⟩
  have horder : ¬ "address1" ≤ "ADDRESS2" := by decide +kernel
  have hsorted : ["address1", "ADDRESS2"].mergeSort (· ≤ ·) = ["ADDRESS2", "address1"] := by
    simp [List.mergeSort, horder]
  rw [(houtcome (Sample.refuseCall 0) 0).2, Schema.missingColumns, hsorted]
  rfl

/-- The matches of instructions in the sample can be read, one of them, but the schema check refuses
their table. -/
theorem Store.refuses_readable :
    Sample.capitalStore.execute (.matchesOf .instruction)
        = .ok [.ok [.integer 3, .integer 4]] ∧
      ∃ failure, Sample.capitalStore.requireColumns Granularity.instruction.table
        Schema.matchColumns = .error failure := by
  obtain ⟨table, -, hrefused⟩ := Store.requireColumns_of_misspelt
    (show Sample.capitalStore.isOpen = true from rfl)
    (Database.ownName_table .instruction) Sample.misspelt_capital
  exact ⟨rfl, _, hrefused⟩

end BinaryDiff
