import BinaryDiff.Store.Store
import Mathlib.Tactic.Common

/-!
# A checked table can be queried

The schema check looks the columns of a table up by introspection, letter by letter; a query
resolves names without regard to case.  What the check accepts, a query finds:
`Store.exists_table_of_required` gives the table behind a check that succeeded, and
`Database.select_eq_ok_iff` says which queries can be prepared and what rows they yield, each cell
taken from the column that the query knows under that name.
-/

namespace BinaryDiff

lemma Granularity.mem_all (granularity : Granularity) : granularity ∈ all := by
  cases granularity <;> simp [all]

lemma sameName_refl (name : String) : sameName name name = true := by
  simp [sameName]

/-! ### The cells that a query sees -/

/-- A stored cell together with the name of its column, as it was written. -/
structure StoredCell where
  column : String
  cell : Cell
deriving DecidableEq, Repr

/-- The cell as it is fetched. -/
def StoredCell.fetch (stored : StoredCell) : Except ForeignError Value :=
  stored.cell.fetch stored.column

namespace Table

/-- The cell of a row in the column that a query knows under a name. -/
def stored (table : Table) (column : String) (row : List Cell) : StoredCell :=
  match table.place? column with
  | some place => ⟨table.columns.getD place "", cellAt row place⟩
  | none => ⟨column, .null⟩

/-- The cells of a row in some columns, as they are fetched. -/
def fetched (table : Table) (columns : List String) (row : List Cell) : FetchedRow :=
  columns.mapM fun column => (table.stored column row).fetch

/-- The rows in the order of a column, ties in storage order. -/
def sorted (table : Table) (key : String) : List (List Cell) :=
  table.rows.mergeSort fun a b => (table.stored key a).cell.upTo (table.stored key b).cell

/-- What a query sees of a row depends on the names of the columns. -/
lemma stored_congr {table other : Table} (h : table.columns = other.columns) :
    table.stored = other.stored := by
  funext column row
  simp only [stored, place?, h]

lemma mem_sorted {table : Table} {key : String} {row : List Cell} :
    row ∈ table.sorted key ↔ row ∈ table.rows :=
  List.mem_mergeSort

/-- Of two rows the one with the lower key comes first, and of equals the one stored first. -/
lemma sorted_of_two {table : Table} {first second : List Cell} (h : table.rows = [first, second])
    (key : String) :
    table.sorted key
      = if (table.stored key first).cell.upTo (table.stored key second).cell then [first, second]
        else [second, first] := by
  simp [sorted, h, List.mergeSort, List.merge]

/-- The place of the column that a query knows under a name. -/
def placeOf (table : Table) (column : String) : Nat := (table.place? column).getD 0

/-- Whether a query knows a column under a name: it is written so, but for the case of ASCII
letters. -/
def Knows (table : Table) (column : String) : Prop :=
  ∃ written ∈ table.columns, sameName column written = true

instance (table : Table) (column : String) : Decidable (table.Knows column) :=
  inferInstanceAs (Decidable (∃ written ∈ table.columns, _))

lemma knows_of_mem {table : Table} {column : String} (h : column ∈ table.columns) :
    table.Knows column :=
  ⟨column, h, sameName_refl column⟩

lemma isSome_place?_iff {table : Table} {column : String} :
    (table.place? column).isSome ↔ table.Knows column := by
  rw [place?, List.findIdx?_isSome, List.any_eq_true, Knows]

lemma place?_eq_some_placeOf {table : Table} {column : String} (h : table.Knows column) :
    table.place? column = some (table.placeOf column) := by
  obtain ⟨place, hplace⟩ := Option.isSome_iff_exists.mp (isSome_place?_iff.mpr h)
  rw [placeOf, hplace, Option.getD_some]

lemma place?_eq_none {table : Table} {column : String} (h : ¬ table.Knows column) :
    table.place? column = none := by
  rw [← isSome_place?_iff] at h
  simpa using h

lemma fetch_stored {table : Table} {column : String} (h : table.Knows column)
    (row : List Cell) :
    (table.stored column row).fetch
      = (cellAt row (table.placeOf column)).fetch
          (table.columns.getD (table.placeOf column) "") := by
  rw [stored, place?_eq_some_placeOf h, StoredCell.fetch]

end Table

namespace Database

/-- Whether a query knows a table under a name, and in it some columns under theirs. -/
def Knows (database : Database) (name : String) (columns : List String) : Prop :=
  ∃ table, database.table? name = some table ∧ ∀ column ∈ columns, table.Knows column

lemma places_eq_of_knows {table : Table} {columns : List String}
    (h : ∀ column ∈ columns, table.Knows column) :
    places table columns = .ok (columns.map table.placeOf) := by
  induction columns with
  | nil => rfl
  | cons column columns ih =>
    have hrest := ih fun other hother => h other (List.mem_cons_of_mem _ hother)
    rw [places] at hrest ⊢
    rw [List.mapM_cons, hrest, Table.place?_eq_some_placeOf (h column List.mem_cons_self)]
    rfl

lemma knows_of_places_eq_ok {table : Table} {columns : List String} {found : List Nat}
    (h : places table columns = .ok found) : ∀ column ∈ columns, table.Knows column := by
  induction columns generalizing found with
  | nil => simp
  | cons column columns ih =>
    rw [places, List.mapM_cons] at h
    change (_ >>= fun place => places table columns >>= fun rest => pure (place :: rest)) = _ at h
    by_cases hknows : table.Knows column
    · rw [Table.place?_eq_some_placeOf hknows] at h
      cases hrest : places table columns with
      | error reason => simp [hrest, bind, Except.bind] at h
      | ok rest => exact List.forall_mem_cons.mpr ⟨hknows, ih hrest⟩
    · rw [Table.place?_eq_none hknows] at h
      simp [bind, Except.bind] at h

lemma fetchRow_eq_of_knows {table : Table} {columns : List String}
    (h : ∀ column ∈ columns, table.Knows column) (row : List Cell) :
    fetchRow table (columns.map table.placeOf) row = table.fetched columns row := by
  induction columns with
  | nil => rfl
  | cons column columns ih =>
    have hrest := ih fun other hother => h other (List.mem_cons_of_mem _ hother)
    rw [fetchRow, Table.fetched] at hrest ⊢
    rw [List.map_cons, List.mapM_cons, List.mapM_cons, hrest,
      Table.fetch_stored (h column List.mem_cons_self)]

/-- A query can be prepared exactly if it knows the table and the columns under their names; then it
yields the rows in storage order. -/
theorem select_eq_ok_iff {database : Database} {name : String} {columns : List String}
    {rows : List FetchedRow} :
    database.select name columns = .ok rows ↔
      ∃ table, database.table? name = some table ∧ (∀ column ∈ columns, table.Knows column) ∧
        rows = table.rows.map (table.fetched columns) := by
  rw [select]
  cases htable : database.table? name with
  | none => simp
  | some table =>
    simp only [Option.some.injEq, exists_eq_left']
    have hrows : (∀ column ∈ columns, table.Knows column) →
        table.rows.map (fetchRow table (columns.map table.placeOf))
          = table.rows.map (table.fetched columns) :=
      fun h => List.map_congr_left fun row _ => fetchRow_eq_of_knows h row
    constructor
    · intro h
      cases hplaces : places table columns with
      | error reason => simp [hplaces, bind, Except.bind] at h
      | ok found =>
        have hknows := knows_of_places_eq_ok hplaces
        rw [places_eq_of_knows hknows] at h
        exact ⟨hknows, (Except.ok.inj h).symm.trans (hrows hknows)⟩
    · rintro ⟨hknows, rfl⟩
      rw [places_eq_of_knows hknows, ← hrows hknows]
      rfl

/-- A query that orders the rows by a column can be prepared exactly if it knows the table and all
columns, this one included; then it yields the same rows, sorted. -/
theorem selectOrdered_eq_ok_iff {database : Database} {name : String} {columns : List String}
    {key : String} {rows : List FetchedRow} :
    database.selectOrdered name columns key = .ok rows ↔
      ∃ table, database.table? name = some table ∧
        (∀ column ∈ key :: columns, table.Knows column) ∧
        rows = (table.sorted key).map (table.fetched columns) := by
  rw [selectOrdered]
  cases htable : database.table? name with
  | none => simp
  | some table =>
    simp only [Option.some.injEq, exists_eq_left']
    have hcell : table.Knows key → ∀ row,
        (table.stored key row).cell = Table.cellAt row (table.placeOf key) := by
      intro hkey row
      rw [Table.stored, Table.place?_eq_some_placeOf hkey]
    have hrows : (∀ column ∈ columns, table.Knows column) → table.Knows key →
        (table.rows.mergeSort fun a b => (Table.cellAt a (table.placeOf key)).upTo
            (Table.cellAt b (table.placeOf key))).map
          (fetchRow table (columns.map table.placeOf))
          = (table.sorted key).map (table.fetched columns) := by
      intro hknows hkey
      simp only [Table.sorted, hcell hkey]
      exact List.map_congr_left fun row _ => fetchRow_eq_of_knows hknows row
    constructor
    · intro h
      cases hplaces : places table columns with
      | error reason => simp [hplaces, bind, Except.bind] at h
      | ok found =>
        have hknows := knows_of_places_eq_ok hplaces
        rw [places_eq_of_knows hknows] at h
        by_cases hkey : table.Knows key
        · simp only [Table.place?_eq_some_placeOf hkey] at h
          exact ⟨List.forall_mem_cons.mpr ⟨hkey, hknows⟩,
            (Except.ok.inj h).symm.trans (hrows hknows hkey)⟩
        · simp [Table.place?_eq_none hkey, bind, Except.bind] at h
    · rintro ⟨hall, rfl⟩
      obtain ⟨hkey, hknows⟩ := List.forall_mem_cons.mp hall
      rw [places_eq_of_knows hknows, ← hrows hknows hkey]
      simp only [Table.place?_eq_some_placeOf hkey]
      rfl

/-- The names of the tables that a diff result has are nobody else's: introspection reads them in
full and no system table answers to them. -/
def OwnName (name : String) : Prop :=
  readName name = name ∧ SystemTables.columnNames name = []

lemma ownName_of_mem : ∀ name ∈ Schema.metadataTable :: Granularity.all.map Granularity.table,
    readName name = name ∧ SystemTables.columnNames name = [] := by
  decide +kernel

lemma ownName_table (granularity : Granularity) : OwnName granularity.table :=
  ownName_of_mem _ (List.mem_cons_of_mem _ (List.mem_map_of_mem granularity.mem_all))

lemma ownName_metadataTable : OwnName Schema.metadataTable :=
  ownName_of_mem _ (by simp)

lemma exists_table_of_columnNames_ne_nil {database : Database} {name : String}
    (hname : OwnName name) (h : database.columnNames name ≠ []) :
    ∃ table, database.table? name = some table ∧ database.columnNames name = table.columns := by
  rw [columnNames, hname.1] at h ⊢
  cases htable : database.table? name with
  | none => simp [htable, hname.2] at h
  | some table => exact ⟨table, rfl, rfl⟩

end Database

/-! ### What the schema check accepts -/

namespace Store

/-- An open store passes on what its database answers, a complaint as a failure to read it. -/
lemma execute_eq {store : Store} (hopen : store.isOpen = true) (query : Query) :
    store.execute query = (store.database.answer query).mapError fun reason =>
      .diff (.unreadable store.path reason) := by
  simp only [execute, hopen, if_true, Host.plain]
  cases store.database.answer query <;> rfl

/-- An open store yields what its database answers. -/
lemma execute_eq_ok_iff {store : Store} (hopen : store.isOpen = true) {query : Query}
    {rows : List FetchedRow} :
    store.execute query = .ok rows ↔ store.database.answer query = .ok rows := by
  rw [execute_eq hopen]
  cases store.database.answer query <;> simp [Except.mapError]

/-- Rows without errors are fetched as they are. -/
lemma fetchAll_map_ok (rows : List (List Value)) : fetchAll (rows.map .ok) = .ok rows := by
  induction rows with
  | nil => rfl
  | cons row rows ih =>
    rw [List.map_cons, fetchAll, ih]
    rfl

/-- Introspection of an open store returns the names of the columns. -/
lemma tableColumns_eq {store : Store} (hopen : store.isOpen = true) (table : String) :
    store.tableColumns table
      = .ok ((store.database.columnNames table).mergeSort (· ≤ ·)) := by
  have hexecute : store.execute (.columnsOf table)
      = .ok ((store.database.columnNames table).map fun name => .ok [.text name]) :=
    (execute_eq_ok_iff hopen).mpr rfl
  have hfetched : fetchAll ((store.database.columnNames table).map fun name => .ok [.text name])
      = .ok ((store.database.columnNames table).map fun name => [.text name]) := by
    rw [← fetchAll_map_ok, List.map_map]
    rfl
  have hnames : ((store.database.columnNames table).map fun name => [Value.text name]).filterMap
      nameIn? = store.database.columnNames table := by
    rw [List.filterMap_map]
    exact List.filterMap_some
  rw [tableColumns, hexecute]
  change (fetchAll _ >>= fun rows => pure ((rows.filterMap nameIn?).mergeSort (· ≤ ·))) = _
  rw [hfetched]
  exact congrArg (fun names => Except.ok (names.mergeSort (· ≤ ·))) hnames

lemma requireColumns_eq_ok_iff {store : Store} (hopen : store.isOpen = true) {table : String}
    {columns : List String} :
    store.requireColumns table columns = .ok () ↔
      store.database.columnNames table ≠ [] ∧
        ∀ column ∈ columns, column ∈ store.database.columnNames table := by
  have hmem : ∀ column, column ∈ (store.database.columnNames table).mergeSort (· ≤ ·)
      ↔ column ∈ store.database.columnNames table := fun column => List.mem_mergeSort
  have hnil : (store.database.columnNames table).mergeSort (· ≤ ·) = []
      ↔ store.database.columnNames table = [] := by
    simp only [List.eq_nil_iff_forall_not_mem, hmem]
  simp only [requireColumns, tableColumns_eq hopen, bind, Except.bind]
  by_cases hpresent : store.database.columnNames table = []
  · simp [hpresent]
  · simp [hnil, hmem, hpresent]

lemma requireTables_eq_ok_iff {store : Store} {tables : List (String × List String)} :
    store.requireTables tables = .ok () ↔
      ∀ entry ∈ tables, store.requireColumns entry.1 entry.2 = .ok () := by
  induction tables with
  | nil => simp [requireTables]
  | cons entry tables ih =>
    obtain ⟨table, columns⟩ := entry
    rw [requireTables, List.forall_mem_cons, ← ih]
    cases store.requireColumns table columns <;> simp

/-- Behind a check that succeeded there is a table with the columns that were required. -/
theorem exists_table_of_required {store : Store} (hopen : store.isOpen = true) {name : String}
    (hname : Database.OwnName name) {columns : List String}
    (h : store.requireColumns name columns = .ok ()) :
    ∃ table, store.database.table? name = some table ∧
      ∀ column ∈ columns, column ∈ table.columns := by
  obtain ⟨hpresent, hcolumns⟩ := (requireColumns_eq_ok_iff hopen).mp h
  obtain ⟨table, htable, hnames⟩ :=
    Database.exists_table_of_columnNames_ne_nil hname hpresent
  exact ⟨table, htable, hnames ▸ hcolumns⟩

/-- A table that has the columns which are required of it passes the check. -/
lemma requireColumns_of_table {store : Store} (hopen : store.isOpen = true) {name : String}
    (hname : Database.OwnName name) {table : Table} {columns : List String}
    (htable : store.database.table? name = some table)
    (h : ∀ column ∈ columns, column ∈ table.columns) (hsome : columns ≠ []) :
    store.requireColumns name columns = .ok () := by
  have hnames : store.database.columnNames name = table.columns := by
    rw [Database.columnNames, hname.1, htable]
  obtain ⟨column, hcolumn⟩ := List.exists_mem_of_ne_nil columns hsome
  rw [requireColumns_eq_ok_iff hopen, hnames]
  exact ⟨List.ne_nil_of_mem (h column hcolumn), h⟩

end Store
end BinaryDiff
