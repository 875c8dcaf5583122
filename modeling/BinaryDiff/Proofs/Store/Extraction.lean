import BinaryDiff.Proofs.Cursor.Rows
import BinaryDiff.Proofs.Store.Ordering
import BinaryDiff.Proofs.Store.Records

/-!
# The two records

The records of the two binaries are read from a table that has two rows with nothing but texts in
them.  Their identifiers alone say which of the rows is about the primary binary, and not the places
at which the rows are stored.  If the number of rows is wrong this is complained about, whatever is
in them, and else the first cell that holds no text, in the order of the identifiers and then of the
columns (`Metadata.extract_exact`).
-/

namespace BinaryDiff

namespace Cell

/-- Whether the cell holds a text. -/
def isText : Cell → Bool
  | text _ => true
  | null | integer _ | real _ | blob _ => false

/-- The text in the cell, if there is one and it is UTF-8. -/
def content : Cell → String
  | text bytes => (Utf8.text? bytes).getD ""
  | null | integer _ | real _ | blob _ => ""

/-- The value of the cell, if it is no text that is not UTF-8. -/
def value : Cell → Value
  | null => .null
  | integer raw => .integer raw.toInt
  | real number => .real number
  | text bytes => .text (text bytes).content
  | blob bytes => .blob bytes

lemma value_of_isText {cell : Cell} (h : cell.isText = true) : cell.value = .text cell.content := by
  cases cell with
  | text bytes => rfl
  | null | integer | real | blob => cases h

lemma fetch_eq_value {cell : Cell} (h : ¬ cell.Undecodable) (column : String) :
    cell.fetch column = .ok cell.value := by
  cases cell with
  | text bytes =>
    cases hbytes : Utf8.text? bytes with
    | none => exact absurd hbytes h
    | some text => rw [fetch, value, content, hbytes, Option.getD_some]
  | null | integer | real | blob => rfl

end Cell

/-- A cell of a record, with the number of its row in the order of the rows. -/
structure RecordCell where
  ordinal : Nat
  column : String
  cell : Cell
deriving DecidableEq, Repr

namespace Table

/-- The cells of a row that make up a record, in the order of their columns. -/
def recordCells (table : Table) (ordinal : Nat) (row : List Cell) : List RecordCell :=
  Schema.recordColumns.map fun column => ⟨ordinal, column, (table.stored column row).cell⟩

/-- Whether the texts of a row that make up a record are UTF-8. -/
def Decodable (table : Table) (row : List Cell) : Prop :=
  ∀ column ∈ Schema.recordColumns, ¬ (table.stored column row).cell.Undecodable

/-- The record that the texts of a row make up. -/
def record (table : Table) (row : List Cell) : BinaryMetadata :=
  ⟨(table.stored "filename" row).cell.content, (table.stored "exefilename" row).cell.content,
    (table.stored "hash" row).cell.content⟩

/-- Whether a record holds the texts of a row as they are fetched. -/
structure Describes (table : Table) (row : List Cell) (record : BinaryMetadata) : Prop where
  name : (table.stored "filename" row).fetch = .ok (.text record.name)
  originalName : (table.stored "exefilename" row).fetch = .ok (.text record.originalName)
  contentHash : (table.stored "hash" row).fetch = .ok (.text record.contentHash)

lemma find?_recordCells_eq_none_iff {table : Table} {ordinal : Nat} {row : List Cell} :
    ((table.recordCells ordinal row).find? fun found => !found.cell.isText) = none ↔
      ∀ column ∈ Schema.recordColumns, (table.stored column row).cell.isText = true := by
  simp [recordCells]

/-- A row of texts is described by the record that they make up. -/
lemma describes_record {table : Table} {row : List Cell} (hdecodable : table.Decodable row)
    (htexts : ∀ column ∈ Schema.recordColumns, (table.stored column row).cell.isText = true) :
    table.Describes row (table.record row) := by
  have hfetch : ∀ column ∈ Schema.recordColumns, (table.stored column row).fetch
      = .ok (.text (table.stored column row).cell.content) := by
    intro column hcolumn
    rw [StoredCell.fetch, Cell.fetch_eq_value (hdecodable column hcolumn),
      Cell.value_of_isText (htexts column hcolumn)]
  exact ⟨hfetch _ (by decide), hfetch _ (by decide), hfetch _ (by decide)⟩

lemma fetched_of_decodable {table : Table} {row : List Cell} (h : table.Decodable row) :
    table.fetched Schema.recordColumns row
      = .ok ((table.recordCells 0 row).map fun found => found.cell.value) := by
  rw [recordCells, List.map_map]
  exact mapM_eq_ok fun column hcolumn => Cell.fetch_eq_value (h column hcolumn) _

end Table

namespace Metadata

/-- The complaint about a cell that holds no text. -/
def flaw (path : String) (found : RecordCell) : Failure :=
  .diff (.schema path Schema.metadataTable s!"row {found.ordinal}: {found.column} is not text"
    (some (.text "TEXT")) (some (.text found.cell.typeName)))

/-- The complaint about a number of rows. -/
def miscount (path : String) (count : Nat) : Failure :=
  .diff (.schema path Schema.metadataTable "wrong number of metadata rows" (some (.number 2))
    (some (.number count)))

/-! ### One record -/

lemma texts_cons_text (path : String) (ordinal : Nat) (column text : String)
    (cells : List (String × Value)) :
    texts path ordinal ((column, .text text) :: cells)
      = (texts path ordinal cells).map fun found => text :: found := by
  rw [texts]
  cases texts path ordinal cells <;> rfl

lemma texts_cons_flaw {path : String} {found : RecordCell} (h : found.cell.isText = false)
    (cells : List (String × Value)) :
    texts path found.ordinal ((found.column, found.cell.value) :: cells)
      = .error (flaw path found) := by
  obtain ⟨ordinal, column, cell⟩ := found
  cases cell with
  | text => cases h
  | null | integer | real | blob => rfl

/-- Texts are read column by column, up to the first cell that holds none. -/
lemma texts_eq (path : String) {ordinal : Nat} {cells : List RecordCell}
    (h : ∀ found ∈ cells, found.ordinal = ordinal) :
    texts path ordinal (cells.map fun found => (found.column, found.cell.value))
      = match cells.find? fun found => !found.cell.isText with
        | some found => .error (flaw path found)
        | none => .ok (cells.map fun found => found.cell.content) := by
  induction cells with
  | nil => rfl
  | cons found cells ih =>
    obtain ⟨rfl, hrest⟩ := List.forall_mem_cons.mp h
    rw [List.map_cons]
    cases htext : found.cell.isText with
    | true =>
      rw [List.find?_cons_of_neg (by simp [htext]), Cell.value_of_isText htext, texts_cons_text,
        ih hrest]
      cases cells.find? fun found => !found.cell.isText <;> rfl
    | false => rw [List.find?_cons_of_pos (by simp [htext]), texts_cons_flaw htext]

/-- A record is read from a row of texts, and else its first cell that holds none is at fault. -/
lemma readRecord_eq (path : String) (table : Table) (ordinal : Nat) (row : List Cell) :
    readRecord path ordinal ((table.recordCells 0 row).map fun found => found.cell.value)
      = match (table.recordCells ordinal row).find? fun found => !found.cell.isText with
        | some found => .error (flaw path found)
        | none => .ok (table.record row) := by
  have hordinal : ∀ found ∈ table.recordCells ordinal row, found.ordinal = ordinal := by
    rw [Table.recordCells, List.forall_mem_map]
    exact fun _ _ => rfl
  have hread : readRecord path ordinal ((table.recordCells 0 row).map fun found => found.cell.value)
      = (texts path ordinal
          ((table.recordCells ordinal row).map fun found => (found.column, found.cell.value)) >>=
        fun found => pure ⟨found.getD 0 "", found.getD 1 "", found.getD 2 ""⟩) := rfl
  rw [hread, texts_eq path hordinal]
  cases (table.recordCells ordinal row).find? fun found => !found.cell.isText <;> rfl

/-! ### Both records -/

lemma readPair_of_length_ne {path : String} {rows : List (List Value)} (h : rows.length ≠ 2) :
    readPair path rows = .error (miscount path rows.length) := by
  match rows with
  | [_, _] => exact absurd rfl h
  | [] | [_] | _ :: _ :: _ :: _ => rfl

/-- The records are read row by row, up to the first cell that holds no text. -/
lemma readPair_eq (path : String) (table : Table) (lower higher : List Cell) :
    readPair path ([lower, higher].map fun row =>
        (table.recordCells 0 row).map fun found => found.cell.value)
      = match (table.recordCells 0 lower ++ table.recordCells 1 higher).find? fun found =>
            !found.cell.isText with
        | some found => .error (flaw path found)
        | none => .ok ⟨table.record lower, table.record higher⟩ := by
  rw [List.map_cons, List.map_singleton, readPair, readRecord_eq, readRecord_eq, List.find?_append]
  cases (table.recordCells 0 lower).find? fun found => !found.cell.isText with
  | some found => rfl
  | none => cases (table.recordCells 1 higher).find? fun found => !found.cell.isText <;> rfl

section Extract

variable {store other : Store} {table twin : Table} {lower higher : List Cell}

/-- A complete table is read in the order of the identifiers. -/
lemma extract_of_complete (hopen : store.isOpen = true)
    (htable : store.database.table? Schema.metadataTable = some table)
    (hcolumns : ∀ column ∈ Schema.metadataColumns, column ∈ table.columns)
    (hdecodable : ∀ row ∈ table.rows, table.Decodable row) :
    (extract store).outcome = readPair store.path ((table.sorted Schema.orderColumn).map fun row =>
      (table.recordCells 0 row).map fun found => found.cell.value) := by
  have hfetched : (table.sorted Schema.orderColumn).map (table.fetched Schema.recordColumns)
      = ((table.sorted Schema.orderColumn).map fun row =>
          (table.recordCells 0 row).map fun found => found.cell.value).map .ok := by
    rw [List.map_map]
    exact List.map_congr_left fun row hrow =>
      Table.fetched_of_decodable (hdecodable row (Table.mem_sorted.mp hrow))
  rw [extract_outcome, Store.requireColumns_of_table hopen Database.ownName_metadataTable htable
    hcolumns (List.cons_ne_nil _ _), execute_metadata hopen htable hcolumns, hfetched]
  change (Store.fetchAll _ >>= readPair store.path) = _
  rw [Store.fetchAll_map_ok]
  rfl

/-- What is read of a complete table depends on its columns and on its rows in their order. -/
lemma extract_congr (hopen : store.isOpen = true) (hother : other.isOpen = true)
    (hpath : other.path = store.path)
    (htable : store.database.table? Schema.metadataTable = some table)
    (htwin : other.database.table? Schema.metadataTable = some twin)
    (hcolumns : ∀ column ∈ Schema.metadataColumns, column ∈ table.columns)
    (hsame : twin.columns = table.columns)
    (hsorted : twin.sorted Schema.orderColumn = table.sorted Schema.orderColumn) :
    extract other = extract store := by
  have hsome : Schema.metadataColumns ≠ [] := List.cons_ne_nil _ _
  have hcolumnsTwin : ∀ column ∈ Schema.metadataColumns, column ∈ twin.columns := by
    rwa [hsame]
  have hrequired : other.requireColumns Schema.metadataTable Schema.metadataColumns
      = store.requireColumns Schema.metadataTable Schema.metadataColumns := by
    rw [Store.requireColumns_of_table hopen Database.ownName_metadataTable htable hcolumns hsome,
      Store.requireColumns_of_table hother Database.ownName_metadataTable htwin hcolumnsTwin hsome]
  have hfetched : twin.fetched Schema.recordColumns = table.fetched Schema.recordColumns := by
    funext row
    rw [Table.fetched, Table.fetched, Table.stored_congr hsame]
  have hexecute : other.execute .metadata = store.execute .metadata := by
    rw [execute_metadata hopen htable hcolumns, execute_metadata hother htwin hcolumnsTwin, hsorted,
      hfetched]
  rw [extract, extract, hrequired, hexecute, hpath]

/-- The number of rows is looked at before anything that is in them. -/
lemma extract_of_length_ne (hopen : store.isOpen = true)
    (htable : store.database.table? Schema.metadataTable = some table)
    (hcolumns : ∀ column ∈ Schema.metadataColumns, column ∈ table.columns)
    (hdecodable : ∀ row ∈ table.rows, table.Decodable row) (hlength : table.rows.length ≠ 2) :
    (extract store).outcome = .error (miscount store.path table.rows.length) := by
  have hsorted : ((table.sorted Schema.orderColumn).map fun row =>
      (table.recordCells 0 row).map fun found => found.cell.value).length = table.rows.length := by
    rw [List.length_map, Table.sorted, List.length_mergeSort]
  rw [extract_of_complete hopen htable hcolumns hdecodable,
    readPair_of_length_ne (by rwa [hsorted]), hsorted]

/-- Two rows are read in their order. -/
lemma extract_of_ranked (hopen : store.isOpen = true)
    (htable : store.database.table? Schema.metadataTable = some table)
    (hcolumns : ∀ column ∈ Schema.metadataColumns, column ∈ table.columns)
    (hdecodable : ∀ row ∈ table.rows, table.Decodable row)
    (hranked : table.Ranked Schema.orderColumn lower higher) :
    (extract store).outcome
      = match (table.recordCells 0 lower ++ table.recordCells 1 higher).find? fun found =>
            !found.cell.isText with
        | some found => .error (flaw store.path found)
        | none => .ok ⟨table.record lower, table.record higher⟩ := by
  rw [extract_of_complete hopen htable hcolumns hdecodable, hranked.sorted_eq, readPair_eq]

lemma find?_recordCells_of_ranked (hranked : table.Ranked Schema.orderColumn lower higher) :
    (table.recordCells 0 lower ++ table.recordCells 1 higher).find? (fun found =>
        !found.cell.isText) = none ↔
      ∀ row ∈ table.rows, ∀ column ∈ Schema.recordColumns,
        (table.stored column row).cell.isText = true := by
  simp only [List.find?_append, Option.or_eq_none_iff, Table.find?_recordCells_eq_none_iff,
    hranked.mem_rows, forall_eq_or_imp, forall_eq]

/-- The records are read exactly if there are two rows, all of whose wanted cells are texts; the
primary binary is the one whose row comes first in the order of the identifiers, and both records
are what their rows say.  A wrong number of rows is complained about first, and then the first cell
that holds no text.  Exchanging the rows changes nothing, unless their identifiers tie. -/
theorem extract_exact (hopen : store.isOpen = true)
    (htable : store.database.table? Schema.metadataTable = some table)
    (hcolumns : ∀ column ∈ Schema.metadataColumns, column ∈ table.columns)
    (hdecodable : ∀ row ∈ table.rows, table.Decodable row) :
    ((∃ pair, (extract store).outcome = .ok pair) ↔ table.rows.length = 2 ∧
      ∀ row ∈ table.rows, ∀ column ∈ Schema.recordColumns,
        (table.stored column row).cell.isText = true) ∧
    (table.rows.length ≠ 2 →
      (extract store).outcome = .error (miscount store.path table.rows.length)) ∧
    (table.rows.length = 2 → ∃ lower higher, table.Ranked Schema.orderColumn lower higher ∧
      match (table.recordCells 0 lower ++ table.recordCells 1 higher).find? fun found =>
          !found.cell.isText with
      | some found => (extract store).outcome = .error (flaw store.path found)
      | none => ∃ pair, (extract store).outcome = .ok pair ∧
          table.Describes lower pair.primary ∧ table.Describes higher pair.secondary) ∧
    ∀ (other : Store) (twin : Table) (first second : List Cell), other.isOpen = true →
      other.path = store.path → other.database.table? Schema.metadataTable = some twin →
      twin.columns = table.columns → table.rows = [first, second] → twin.rows = [second, first] →
      ((table.stored Schema.orderColumn first).cell.Precedes
          (table.stored Schema.orderColumn second).cell ∨
        (table.stored Schema.orderColumn second).cell.Precedes
          (table.stored Schema.orderColumn first).cell) →
      extract other = extract store := by
  have hmiscount := extract_of_length_ne hopen htable hcolumns hdecodable
  refine ⟨⟨?_, ?_⟩, hmiscount, ?_, ?_⟩
  · rintro ⟨pair, hok⟩
    have hlength : table.rows.length = 2 := by
      by_contra hne
      cases hok.symm.trans (hmiscount hne)
    obtain ⟨lower, higher, hranked⟩ := Table.exists_ranked hlength Schema.orderColumn
    have houtcome := extract_of_ranked hopen htable hcolumns hdecodable hranked
    refine ⟨hlength, (find?_recordCells_of_ranked hranked).mp ?_⟩
    cases hfind : (table.recordCells 0 lower ++ table.recordCells 1 higher).find? fun found =>
        !found.cell.isText with
    | none => rfl
    | some found =>
      rw [hfind] at houtcome
      cases hok.symm.trans houtcome
  · rintro ⟨hlength, htexts⟩
    obtain ⟨lower, higher, hranked⟩ := Table.exists_ranked hlength Schema.orderColumn
    have houtcome := extract_of_ranked hopen htable hcolumns hdecodable hranked
    rw [(find?_recordCells_of_ranked hranked).mpr htexts] at houtcome
    exact ⟨_, houtcome⟩
  · intro hlength
    obtain ⟨lower, higher, hranked⟩ := Table.exists_ranked hlength Schema.orderColumn
    have houtcome := extract_of_ranked hopen htable hcolumns hdecodable hranked
    have htexts := (find?_recordCells_of_ranked hranked).mp
    have hdescribes : ∀ row ∈ table.rows, _ → table.Describes row (table.record row) :=
      fun row hrow htext => Table.describes_record (hdecodable row hrow) htext
    refine ⟨lower, higher, hranked, ?_⟩
    cases hfind : (table.recordCells 0 lower ++ table.recordCells 1 higher).find? fun found =>
        !found.cell.isText with
    | some found => rwa [hfind] at houtcome
    | none =>
      rw [hfind] at houtcome
      have hlower : lower ∈ table.rows := hranked.mem_rows.mpr (.inl rfl)
      have hhigher : higher ∈ table.rows := hranked.mem_rows.mpr (.inr rfl)
      exact ⟨_, houtcome, hdescribes lower hlower (htexts hfind lower hlower),
        hdescribes higher hhigher (htexts hfind higher hhigher)⟩
  · intro other twin first second hother hpath htwin hsame hrows htwinRows hdiffer
    exact extract_congr hopen hother hpath htable htwin hcolumns hsame
      (Table.sorted_of_exchanged hsame hrows htwinRows hdiffer)

end Extract

/-- A table of records whose identifiers are of different kinds; the row that comes first is stored
second, and the other has no hash. -/
def mixedRecords : Table :=
  ⟨"file", ["hash", "id", "filename", "exefilename"],
    [[.null, .text [55], .text [98], .text [98, 50]],
     [.text [49, 49], .null, .text [97], .text [97, 49]]]⟩

/-- A store with that table. -/
def mixedStore : Store := ⟨"a.db", ⟨[mixedRecords]⟩, true⟩

/-- The missing hash is complained about as one of the second row, which is stored first. -/
theorem extract_exact_mixed :
    mixedStore.isOpen = true ∧
      mixedStore.database.table? Schema.metadataTable = some mixedRecords ∧
      (∀ column ∈ Schema.metadataColumns, column ∈ mixedRecords.columns) ∧
      (∀ row ∈ mixedRecords.rows, mixedRecords.Decodable row) ∧ mixedRecords.rows.length = 2 ∧
      (extract mixedStore).outcome = .error (flaw "a.db" ⟨1, "hash", .null⟩) := by
  have htable : mixedStore.database.table? Schema.metadataTable = some mixedRecords := rfl
  have hcolumns : ∀ column ∈ Schema.metadataColumns, column ∈ mixedRecords.columns := by decide
  have hdecodable : ∀ row ∈ mixedRecords.rows, mixedRecords.Decodable row := by
    unfold Table.Decodable
    decide
  obtain ⟨-, -, htwo, -⟩ := extract_exact rfl htable hcolumns hdecodable
  obtain ⟨lower, higher, hranked, hmatch⟩ := htwo rfl
  refine ⟨rfl, htable, hcolumns, hdecodable, rfl, ?_⟩
  cases hranked with
  | inOrder hrows hnot =>
    cases hrows
    exact absurd (.ofRanks (by decide)) hnot
  | exchanged hrows hprecedes =>
    cases hrows
    exact hmatch

end Metadata
end BinaryDiff
