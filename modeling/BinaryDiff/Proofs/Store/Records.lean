import BinaryDiff.Proofs.Store.Failures

/-!
# Which tables are accepted

The schema check accepts a table exactly if it is there and has the columns that are required of it,
written letter by letter (`requireColumns_eq_ok_iff_not_lacks`).  The records of the two binaries
are accepted if moreover there are two of them, with nothing but texts in the wanted columns.
Everything else is complained about as a fault of their table, unless a text is not UTF-8
(`Metadata.extract_of_misrecorded`).
-/

namespace BinaryDiff

/-- Whether a table lacks one of some columns; one that is absent lacks them all. -/
def Database.Lacks (database : Database) (name : String) (columns : List String) : Prop :=
  ∀ table, database.table? name = some table → ∃ column ∈ columns, column ∉ table.columns

/-- Whether the table of records is complete and all of it can be fetched, and yet it does not hold
two records, or something else than a text in one of them. -/
def Database.Misrecorded (database : Database) : Prop :=
  ∃ table, database.table? Schema.metadataTable = some table ∧
    (∀ column ∈ Schema.metadataColumns, column ∈ table.columns) ∧
    (∀ row ∈ table.rows, ∀ column ∈ Schema.recordColumns,
      ¬ (table.stored column row).cell.Undecodable) ∧
    (table.rows.length ≠ 2 ∨ ∃ row ∈ table.rows, ∃ column ∈ Schema.recordColumns,
      ∀ bytes, (table.stored column row).cell ≠ .text bytes)

lemma Database.exists_table_of_not_lacks {database : Database} {name : String}
    {columns : List String} (h : ¬ database.Lacks name columns) :
    ∃ table, database.table? name = some table ∧ ∀ column ∈ columns, column ∈ table.columns := by
  simpa [Lacks] using h

namespace Store

variable {store : Store}

/-- The schema check accepts exactly the tables that lack nothing. -/
theorem requireColumns_eq_ok_iff_not_lacks (hopen : store.isOpen = true) {name : String}
    (hname : Database.OwnName name) {columns : List String} (hsome : columns ≠ []) :
    store.requireColumns name columns = .ok () ↔ ¬ store.database.Lacks name columns := by
  constructor
  · intro hrequired hlacks
    obtain ⟨table, htable, hcolumns⟩ := exists_table_of_required hopen hname hrequired
    obtain ⟨column, hcolumn, hmissing⟩ := hlacks table htable
    exact hmissing (hcolumns column hcolumn)
  · intro hlacks
    obtain ⟨table, htable, hcolumns⟩ := Database.exists_table_of_not_lacks hlacks
    exact requireColumns_of_table hopen hname htable hcolumns hsome

/-- What a table lacks is complained about. -/
lemma requireColumns_of_lacks (hopen : store.isOpen = true) {name : String}
    (hname : Database.OwnName name) {columns : List String} (hsome : columns ≠ [])
    (h : store.database.Lacks name columns) :
    ∃ failure, store.requireColumns name columns = .error failure ∧
      SchemaFailure store.path name failure := by
  cases hrequired : store.requireColumns name columns with
  | ok => exact absurd h ((requireColumns_eq_ok_iff_not_lacks hopen hname hsome).mp hrequired)
  | error failure => exact ⟨failure, rfl, schemaFailure_of_requireColumns hopen hrequired⟩

end Store

/-! ### Two records of texts -/

lemma exists_mem_zip_of_mapM {ε α β : Type} {f : α → Except ε β} {items : List α} {values : List β}
    (h : items.mapM f = .ok values) {item : α} (hitem : item ∈ items) :
    ∃ value, f item = .ok value ∧ (item, value) ∈ items.zip values := by
  induction items generalizing values with
  | nil => cases hitem
  | cons first items ih =>
    rw [List.mapM_cons] at h
    cases hfirst : f first with
    | error reason => simp [hfirst, bind, Except.bind] at h
    | ok value =>
      cases hrest : items.mapM f with
      | error reason => simp [hfirst, hrest, bind, Except.bind] at h
      | ok rest =>
        have hvalues : values = value :: rest := by
          simpa [hfirst, hrest, bind, Except.bind, pure, Except.pure, eq_comm] using h
        subst hvalues
        rcases List.mem_cons.mp hitem with rfl | hitem
        · exact ⟨value, hfirst, List.mem_cons_self⟩
        · obtain ⟨other, hother, hmem⟩ := ih hrest hitem
          exact ⟨other, hother, List.mem_cons_of_mem _ hmem⟩

/-- Only a text is fetched as a text. -/
lemma Cell.eq_text_of_fetch {cell : Cell} {column text : String}
    (h : cell.fetch column = .ok (.text text)) : ∃ bytes, cell = .text bytes := by
  cases cell with
  | text bytes => exact ⟨bytes, rfl⟩
  | null | integer | real | blob => cases h

lemma Store.fetchAll_eq_ok {rows : List FetchedRow} {values : List (List Value)}
    (h : Store.fetchAll rows = .ok values) : rows = values.map .ok := by
  induction rows generalizing values with
  | nil =>
    cases h
    rfl
  | cons row rows ih =>
    cases row with
    | error message => cases h
    | ok row =>
      cases hrest : Store.fetchAll rows with
      | error failure => simp [Store.fetchAll, hrest, bind, Except.bind] at h
      | ok rest =>
        have hvalues : values = row :: rest := by
          simpa [Store.fetchAll, hrest, bind, Except.bind, pure, Except.pure, eq_comm] using h
        rw [hvalues, List.map_cons, ih hrest]

namespace Metadata

lemma texts_eq_ok {path : String} {ordinal : Nat} {cells : List (String × Value)}
    {found : List String} (h : texts path ordinal cells = .ok found) :
    ∀ cell ∈ cells, ∃ text, cell.2 = .text text := by
  induction cells generalizing found with
  | nil => simp
  | cons cell cells ih =>
    obtain ⟨column, value⟩ := cell
    cases value with
    | text content =>
      cases hrest : texts path ordinal cells with
      | error failure => simp [texts, hrest, bind, Except.bind] at h
      | ok rest => exact List.forall_mem_cons.mpr ⟨⟨content, rfl⟩, ih hrest⟩
    | null | integer | real | blob => cases h

lemma readRecord_eq_ok {path : String} {ordinal : Nat} {row : List Value} {record : BinaryMetadata}
    (h : readRecord path ordinal row = .ok record) :
    ∀ cell ∈ Schema.recordColumns.zip row, ∃ text, cell.2 = .text text := by
  cases htexts : texts path ordinal (Schema.recordColumns.zip row) with
  | error failure => simp [readRecord, htexts, bind, Except.bind] at h
  | ok found => exact texts_eq_ok htexts

/-- A pair is read from two rows of texts only. -/
lemma readPair_eq_ok {path : String} {rows : List (List Value)} {pair : MetadataPair}
    (h : readPair path rows = .ok pair) :
    rows.length = 2 ∧
      ∀ row ∈ rows, ∀ cell ∈ Schema.recordColumns.zip row, ∃ text, cell.2 = .text text := by
  match rows with
  | [first, second] =>
    cases hfirst : readRecord path 0 first with
    | error failure => simp [readPair, hfirst, bind, Except.bind] at h
    | ok primary =>
      cases hsecond : readRecord path 1 second with
      | error failure => simp [readPair, hfirst, hsecond, bind, Except.bind] at h
      | ok secondary =>
        refine ⟨rfl, List.forall_mem_cons.mpr ⟨readRecord_eq_ok hfirst, ?_⟩⟩
        exact List.forall_mem_cons.mpr ⟨readRecord_eq_ok hsecond, by simp⟩
  | [] | [_] | _ :: _ :: _ :: _ => cases h

/-- The records of an open store fail to be read as a fault of their table, or for a text that
cannot be decoded. -/
theorem extract_failure_of_open {store : Store} (hopen : store.isOpen = true) {failure : Failure}
    (h : (extract store).outcome = .error failure) :
    SchemaFailure store.path Schema.metadataTable failure ∨
      ∃ error, failure = .foreign error := by
  rw [extract_outcome] at h
  rcases Except.bind_eq_error h with hrequired | ⟨⟨⟩, hrequired, h⟩
  · exact .inl (Store.schemaFailure_of_requireColumns hopen hrequired)
  obtain ⟨table, htable, hcolumns⟩ := Store.exists_table_of_required hopen
    Database.ownName_metadataTable hrequired
  rw [execute_metadata hopen htable hcolumns] at h
  change (Store.fetchAll _ >>= readPair store.path) = _ at h
  rcases Except.bind_eq_error h with hrows | ⟨rows, -, hpair⟩
  · exact .inr (Store.fetchAll_failure hrows)
  · exact .inl (readPair_failure hpair)

/-- A table of records that lacks a column or holds the wrong records is complained about. -/
theorem extract_of_misrecorded {store : Store} (hopen : store.isOpen = true)
    (h : store.database.Lacks Schema.metadataTable Schema.metadataColumns ∨
      store.database.Misrecorded) :
    ∃ failure, (extract store).outcome = .error failure ∧
      SchemaFailure store.path Schema.metadataTable failure := by
  rw [extract_outcome]
  rcases h with hlacks | ⟨table, htable, hcolumns, hdecodable, hwrong⟩
  · have hsome : Schema.metadataColumns ≠ [] := List.cons_ne_nil _ _
    obtain ⟨failure, hfailure, hschema⟩ :=
      Store.requireColumns_of_lacks hopen Database.ownName_metadataTable hsome hlacks
    exact ⟨failure, by rw [hfailure]; rfl, hschema⟩
  rw [Store.requireColumns_of_table hopen Database.ownName_metadataTable htable hcolumns
    (List.cons_ne_nil _ _), execute_metadata hopen htable hcolumns]
  change ∃ failure, (Store.fetchAll _ >>= readPair store.path) = .error failure ∧ _
  cases hrows : Store.fetchAll ((table.sorted Schema.orderColumn).map
      (table.fetched Schema.recordColumns)) with
  | error failure =>
    obtain ⟨error, hmem⟩ := (Store.fetchAll_failure_iff _).mp ⟨failure, hrows⟩
    obtain ⟨row, hrow, hfetch⟩ := List.mem_map.mp hmem
    obtain ⟨column, hcolumn, hbad⟩ := (Table.fetched_failure_iff _ _ row).mp ⟨error, hfetch⟩
    exact absurd hbad (hdecodable row (Table.mem_sorted.mp hrow) column hcolumn)
  | ok rows =>
    have hfetched := Store.fetchAll_eq_ok hrows
    change ∃ failure, readPair store.path rows = .error failure ∧ _
    cases hpair : readPair store.path rows with
    | error failure => exact ⟨failure, rfl, readPair_failure hpair⟩
    | ok pair =>
      -- a pair that was read came of two rows of texts, which the table does not have
      obtain ⟨hlength, htexts⟩ := readPair_eq_ok hpair
      exfalso
      rcases hwrong with hnumber | ⟨row, hrow, column, hcolumn, hother⟩
      · have hlengths := congrArg List.length hfetched
        rw [List.length_map, List.length_map, hlength, Table.sorted, List.length_mergeSort]
          at hlengths
        exact hnumber hlengths
      · have hmem : table.fetched Schema.recordColumns row ∈ rows.map .ok := by
          rw [← hfetched]
          exact List.mem_map_of_mem (Table.mem_sorted.mpr hrow)
        obtain ⟨values, hvalues, hok⟩ := List.mem_map.mp hmem
        obtain ⟨value, hvalue, hzip⟩ := exists_mem_zip_of_mapM hok.symm hcolumn
        obtain ⟨text, rfl⟩ := htexts values hvalues (column, value) hzip
        obtain ⟨bytes, hbytes⟩ := Cell.eq_text_of_fetch hvalue
        exact hother bytes hbytes

end Metadata
end BinaryDiff
