import BinaryDiff.Cursor.Decode
import BinaryDiff.Proofs.Store.Failures
import BinaryDiff.Proofs.Text.Hex

/-!
# Good rows and flawed rows

A row of a match table is good when it can be fetched and both of its cells are integers that,
modulo `2^64`, fit the address width; its match is then the pair of these remainders.  Any other row
is flawed, and `Flawed` says how it is complained about: what cannot be fetched comes before what is
in the cells, and the first column before the second.  A feed runs through the good rows and ends at
the first flawed one (`RowReader.feed_cases`).
-/

namespace BinaryDiff

namespace Cell

/-- Whether the cell is an integer that, modulo `2^64`, needs no more than `width` bits. -/
def Fits (width : Nat) : Cell → Prop
  | integer raw => raw.toInt % 2 ^ 64 < 2 ^ width
  | _ => False

/-- The integer in the cell modulo `2^64`. -/
def address : Cell → Int
  | integer raw => raw.toInt % 2 ^ 64
  | _ => 0

/-- The name of the cell's type in messages. -/
def typeName : Cell → String
  | null => "NULL"
  | integer _ => "int"
  | real _ => "float"
  | text _ => "str"
  | blob _ => "bytes"

instance (width : Nat) (cell : Cell) : Decidable (cell.Fits width) :=
  match cell with
  | integer raw => inferInstanceAs (Decidable (raw.toInt % 2 ^ 64 < 2 ^ width))
  | null | real _ | text _ | blob _ => inferInstanceAs (Decidable False)

end Cell

/-- The two cells of a row of a match table. -/
structure StoredMatch where
  primary : StoredCell
  secondary : StoredCell
deriving DecidableEq, Repr

namespace StoredMatch

/-- The row as it is fetched. -/
def fetch (stored : StoredMatch) : FetchedRow := do
  return [← stored.primary.fetch, ← stored.secondary.fetch]

/-- Whether the row stands for a match under an address width. -/
def Good (width : Nat) (stored : StoredMatch) : Prop :=
  stored.fetch.isOk ∧ stored.primary.cell.Fits width ∧ stored.secondary.cell.Fits width

instance (width : Nat) (stored : StoredMatch) : Decidable (stored.Good width) :=
  inferInstanceAs (Decidable (_ ∧ _ ∧ _))

/-- The match that a good row stands for. -/
def pair (stored : StoredMatch) : AddressPair :=
  ⟨stored.primary.cell.address, stored.secondary.cell.address⟩

/-- If a row can be fetched, so can each of its cells. -/
lemma cells_of_fetch {stored : StoredMatch} {values : List Value} (h : stored.fetch = .ok values) :
    ∃ primary secondary, stored.primary.fetch = .ok primary ∧
      stored.secondary.fetch = .ok secondary ∧ values = [primary, secondary] := by
  rw [fetch] at h
  cases hprimary : stored.primary.fetch with
  | error reason =>
    rw [hprimary] at h
    cases h
  | ok primary =>
    cases hsecondary : stored.secondary.fetch with
    | error reason =>
      rw [hprimary, hsecondary] at h
      cases h
    | ok secondary =>
      rw [hprimary, hsecondary] at h
      cases h
      exact ⟨primary, secondary, rfl, rfl, rfl⟩

/-- A row that cannot be fetched fails with an error of the database library. -/
lemma ofDatabase_of_fetch {stored : StoredMatch} {error : ForeignError}
    (h : stored.fetch = .error error) : error.ofDatabase = true := by
  have hcell : ∀ {cell : StoredCell}, cell.fetch = .error error → error.ofDatabase = true := by
    rintro ⟨column, cell⟩ hfetch
    rw [StoredCell.fetch] at hfetch
    cases cell with
    | text bytes =>
      rw [Cell.fetch] at hfetch
      split at hfetch
      · cases hfetch
      · cases hfetch
        rfl
    | null | integer | real | blob => cases hfetch
  rcases Except.bind_eq_error h with hprimary | ⟨primary, -, h⟩
  · exact hcell hprimary
  rcases Except.bind_eq_error h with hsecondary | ⟨secondary, -, hdone⟩
  · exact hcell hsecondary
  · cases hdone

/-- The first column that is at fault, with the cell in it. -/
inductive Offends (stored : StoredMatch) (width : Nat) : String → Cell → Prop
  | primary : ¬ stored.primary.cell.Fits width → stored.Offends width "address1" stored.primary.cell
  | secondary : stored.primary.cell.Fits width → ¬ stored.secondary.cell.Fits width →
      stored.Offends width "address2" stored.secondary.cell

end StoredMatch

/-- What the row of a given number is complained about with, if it is not good. -/
inductive Flawed (reader : RowReader) (index : Nat) (stored : StoredMatch) : Failure → Prop
  /-- The row cannot be fetched, whatever is in its cells. -/
  | unfetchable {error : ForeignError} : stored.fetch = .error error →
      Flawed reader index stored (.diff (.unreadable reader.path error.text))
  /-- The first cell at fault is no integer. -/
  | notInteger {column : String} {cell : Cell} : stored.fetch.isOk →
      stored.Offends reader.width.toNat column cell → (∀ raw, cell ≠ .integer raw) →
      Flawed reader index stored (.diff (.schema reader.path reader.granularity.table
        s!"row {index}: {column} is not an integer address"
        (some (.text "INTEGER")) (some (.text cell.typeName))))
  /-- The first cell at fault is an integer with too many bits, which the complaint shows. -/
  | tooWide {column hex : String} {raw : Int64} : stored.fetch.isOk →
      stored.Offends reader.width.toNat column (.integer raw) →
      Hex.readSigned hex.toList = some raw.toInt →
      Flawed reader index stored (.diff (.schema reader.path reader.granularity.table
        s!"row {index}: {column} value {hex} exceeds address width"
        (some (.text s!"< 2**{reader.width}")) (some (.text hex))))

/-! ### One row -/

lemma toAddress_toInt (raw : Int64) (width : Nat) :
    toAddress raw.toInt width
      = if raw.toInt % 2 ^ 64 < 2 ^ width then some (raw.toInt % 2 ^ 64) else none := by
  have hmod : (if raw.toInt < 0 then raw.toInt % (twoTo 64 : Int) else raw.toInt)
      = raw.toInt % 2 ^ 64 := by
    have htwo : (twoTo 64 : Int) = 2 ^ 64 := rfl
    have hlt := raw.toInt_lt
    split
    · rw [htwo]
    · omega
  have hwidth : (twoTo width : Int) = 2 ^ width := by
    rw [twoTo]
    exact Int.natCast_pow 2 width
  simp only [toAddress, hmod, hwidth]

namespace RowReader

variable {reader : RowReader}

/-- The complaint about a cell at fault. -/
def cellFlaw (reader : RowReader) (index : Nat) (column : String) : Cell → Failure
  | .integer raw => reader.tooWide index column raw.toInt
  | cell => .diff (.schema reader.path reader.granularity.table
      s!"row {index}: {column} is not an integer address"
      (some (.text "INTEGER")) (some (.text cell.typeName)))

/-- No width is needed to complain about a cell that is no integer. -/
lemma address_of_not_integer {cell : Cell} {label : String} {value : Value}
    (hfetch : cell.fetch label = .ok value) (hcell : ∀ raw, cell ≠ .integer raw) (index : Nat)
    (column : String) :
    reader.address index column value = .error (reader.cellFlaw index column cell) := by
  cases cell with
  | integer raw => exact absurd rfl (hcell raw)
  | null | real | blob =>
    cases hfetch
    rfl
  | text bytes =>
    rw [Cell.fetch] at hfetch
    split at hfetch
    · cases hfetch
      rfl
    · exact absurd hfetch (by simp)

lemma address_eq (hwidth : 0 ≤ reader.width) {cell : Cell} {label : String} {value : Value}
    (hfetch : cell.fetch label = .ok value) (index : Nat) (column : String) :
    reader.address index column value
      = if cell.Fits reader.width.toNat then .ok cell.address
        else .error (reader.cellFlaw index column cell) := by
  cases cell with
  | integer raw =>
    cases hfetch
    rw [address, widthChecked, if_neg (by omega), toAddress_toInt]
    by_cases hfits : (Cell.integer raw).Fits reader.width.toNat
    · have hbits : raw.toInt % 2 ^ 64 < 2 ^ reader.width.toNat := hfits
      rw [if_pos hfits, if_pos hbits]
      rfl
    · have hbits : ¬ raw.toInt % 2 ^ 64 < 2 ^ reader.width.toNat := hfits
      rw [if_neg hfits, if_neg hbits]
      rfl
  | null | real | text | blob =>
    rw [address_of_not_integer hfetch (by simp), if_neg]
    simp [Cell.Fits]

lemma flawed_of_offends {stored : StoredMatch} {index : Nat}
    {column : String} {cell : Cell} (hfetch : stored.fetch.isOk)
    (h : stored.Offends reader.width.toNat column cell) :
    Flawed reader index stored (reader.cellFlaw index column cell) := by
  cases cell with
  | integer raw => exact .tooWide hfetch h (Hex.readSigned_signed raw.toInt)
  | null | real | text | blob => exact .notInteger hfetch h (by simp)

lemma address_ne_unreadable {index : Nat} {column : String} {value : Value}
    {shown reason : String} :
    reader.address index column value ≠ .error (.diff (.unreadable shown reason)) := by
  cases value with
  | integer raw =>
    rw [address, widthChecked]
    by_cases hwidth : reader.width < 0
    · rw [if_pos hwidth]
      simp
    · rw [if_neg hwidth]
      cases hraw : toAddress raw reader.width.toNat <;> simp [tooWide]
  | null | real | text | blob => simp [address, notAnAddress]

lemma read_of_address_eq_error {index : Nat} {column : String} {value : Value} {failure : Failure}
    (h : reader.address index column value = .error failure) :
    ReadFailure reader.path failure ∨ (failure = .negativeWidth ∧ reader.width < 0) := by
  cases value with
  | integer raw =>
    rw [address, widthChecked] at h
    by_cases hwidth : reader.width < 0
    · rw [if_pos hwidth] at h
      cases h
      exact .inr ⟨rfl, hwidth⟩
    · rw [if_neg hwidth] at h
      cases hraw : toAddress raw reader.width.toNat with
      | none =>
        rw [hraw] at h
        cases h
        exact .inl (.schema ..)
      | some address =>
        rw [hraw] at h
        cases h
  | null | real | text | blob =>
    cases h
    exact .inl (.schema ..)

/-- A good row is its match, and any other fails as its flaw demands. -/
theorem pair_cases (hwidth : 0 ≤ reader.width) (stored : StoredMatch) (index : Nat) :
    (stored.Good reader.width.toNat ∧ reader.pair index stored.fetch = .ok stored.pair) ∨
      (¬ stored.Good reader.width.toNat ∧ ∃ failure,
        reader.pair index stored.fetch = .error failure ∧ Flawed reader index stored failure) := by
  cases hfetch : stored.fetch with
  | error error =>
    have hguarded :=
      Failure.ofError_of_database (StoredMatch.ofDatabase_of_fetch hfetch) reader.path
    exact .inr ⟨by simp [StoredMatch.Good, hfetch, Except.isOk, Except.toBool], _,
      congrArg Except.error hguarded, .unfetchable hfetch⟩
  | ok values =>
    have hok : stored.fetch.isOk := by rw [hfetch]; rfl
    obtain ⟨primary, secondary, hprimary, hsecondary, rfl⟩ := StoredMatch.cells_of_fetch hfetch
    have hpair : reader.pair index (.ok [primary, secondary]) = do
        let primary ← reader.address index "address1" primary
        let secondary ← reader.address index "address2" secondary
        return ⟨primary, secondary⟩ := rfl
    rw [hpair, address_eq hwidth hprimary, address_eq hwidth hsecondary]
    -- the second cell is looked at only if the first fits
    by_cases hfirst : stored.primary.cell.Fits reader.width.toNat
    · by_cases hsecond : stored.secondary.cell.Fits reader.width.toNat
      · refine .inl ⟨⟨hok, hfirst, hsecond⟩, ?_⟩
        rw [if_pos hfirst, if_pos hsecond]
        rfl
      · refine .inr ⟨fun hgood => hsecond hgood.2.2, _, ?_,
          flawed_of_offends hok (.secondary hfirst hsecond)⟩
        rw [if_pos hfirst, if_neg hsecond]
        rfl
    · refine .inr ⟨fun hgood => hfirst hgood.2.1, _, ?_,
        flawed_of_offends hok (.primary hfirst)⟩
      rw [if_neg hfirst]
      rfl

/-- Under a negative width a row fails as its flaw demands, unless its first cell is an integer. -/
lemma pair_of_negative (hwidth : reader.width < 0) (stored : StoredMatch) (index : Nat) :
    reader.pair index stored.fetch = .error .negativeWidth ∨
      (¬ stored.Good reader.width.toNat ∧ ∃ failure,
        reader.pair index stored.fetch = .error failure ∧ Flawed reader index stored failure) := by
  cases hfetch : stored.fetch with
  | error error =>
    have hguarded :=
      Failure.ofError_of_database (StoredMatch.ofDatabase_of_fetch hfetch) reader.path
    exact .inr ⟨by simp [StoredMatch.Good, hfetch, Except.isOk, Except.toBool], _,
      congrArg Except.error hguarded, .unfetchable hfetch⟩
  | ok values =>
    have hok : stored.fetch.isOk := by rw [hfetch]; rfl
    obtain ⟨primary, secondary, hprimary, -, rfl⟩ := StoredMatch.cells_of_fetch hfetch
    by_cases hinteger : ∃ raw, stored.primary.cell = .integer raw
    · obtain ⟨raw, hraw⟩ := hinteger
      rw [StoredCell.fetch, hraw] at hprimary
      cases hprimary
      have haddress : reader.address index "address1" (.integer raw.toInt)
          = .error .negativeWidth := by
        rw [address, widthChecked, if_pos hwidth]
      refine .inl ?_
      rw [pair, List.getD_cons_zero, haddress]
      rfl
    · -- the width is not looked at: the complaint is the one about any first cell of this type
      rw [not_exists] at hinteger
      have hfits : ¬ stored.primary.cell.Fits reader.width.toNat := by
        intro hfits
        cases hcell : stored.primary.cell with
        | integer raw => exact hinteger raw hcell
        | null | real | text | blob =>
          rw [hcell] at hfits
          exact hfits
      refine .inr ⟨fun hgood => hfits hgood.2.1, _, ?_, flawed_of_offends hok (.primary hfits)⟩
      rw [pair, List.getD_cons_zero, address_of_not_integer hprimary hinteger]
      rfl

/-- Whatever the width is, a row is read as its match, or is complained about as its flaw or the
width demands. -/
theorem pair_outcomes (reader : RowReader) (stored : StoredMatch) (index : Nat) :
    (stored.Good reader.width.toNat ∧ reader.pair index stored.fetch = .ok stored.pair) ∨
      (¬ stored.Good reader.width.toNat ∧ ∃ failure,
        reader.pair index stored.fetch = .error failure ∧ Flawed reader index stored failure) ∨
      (reader.width < 0 ∧ reader.pair index stored.fetch = .error .negativeWidth) := by
  by_cases hwidth : 0 ≤ reader.width
  · rcases pair_cases hwidth stored index with hgood | hbad
    · exact .inl hgood
    · exact .inr (.inl hbad)
  · have hnegative := Int.not_le.mp hwidth
    rcases pair_of_negative hnegative stored index with hpair | hbad
    · exact .inr (.inr ⟨hnegative, hpair⟩)
    · exact .inr (.inl hbad)

/-- A row is complained about as unreadable only if it cannot be fetched. -/
lemma fetch_of_pair_eq_unreadable {index : Nat} {row : FetchedRow} {shown reason : String}
    (h : reader.pair index row = .error (.diff (.unreadable shown reason))) :
    ∃ error, row = .error error ∧ error.text = reason := by
  cases row with
  | error error =>
    have hreason := Except.error.inj h
    rw [Failure.ofError] at hreason
    split at hreason
    · cases hreason
      exact ⟨error, rfl, rfl⟩
    · cases hreason
  | ok values =>
    rw [pair] at h
    rcases Except.bind_eq_error h with hprimary | ⟨primary, -, h⟩
    · exact absurd hprimary address_ne_unreadable
    rcases Except.bind_eq_error h with hsecondary | ⟨secondary, -, hdone⟩
    · exact absurd hsecondary address_ne_unreadable
    · cases hdone

/-- However a row fails to be read, the store is found to be unreadable or a table not what it
should be, except under a width that no address can have, and for an error of fetching it that is
none of the database library. -/
theorem read_of_pair_eq_error {index : Nat} {row : FetchedRow} {failure : Failure}
    (h : reader.pair index row = .error failure) :
    ReadFailure reader.path failure ∨ (failure = .negativeWidth ∧ reader.width < 0) ∨
      ∃ error, row = .error error ∧ error.ofDatabase = false ∧ failure = .foreign error := by
  cases row with
  | error error =>
    cases h
    rcases Failure.ofError_cases reader.path error with hread | ⟨hkind, heq⟩
    · exact .inl hread
    · exact .inr (.inr ⟨error, rfl, hkind, heq⟩)
  | ok values =>
    rw [pair] at h
    rcases Except.bind_eq_error h with hprimary | ⟨primary, -, h⟩
    · exact (read_of_address_eq_error hprimary).imp_right .inl
    rcases Except.bind_eq_error h with hsecondary | ⟨secondary, -, hdone⟩
    · exact (read_of_address_eq_error hsecondary).imp_right .inl
    · cases hdone

/-! ### All rows -/

/-- A feed fails as one of its rows does. -/
theorem read_of_feed_eq_some {index : Nat} {rows : List FetchedRow} {failure : Failure}
    (h : (reader.feed index rows).failure = some failure) :
    ReadFailure reader.path failure ∨ (failure = .negativeWidth ∧ reader.width < 0) ∨
      ∃ error, .error error ∈ rows ∧ error.ofDatabase = false ∧ failure = .foreign error := by
  induction rows generalizing index with
  | nil => cases h
  | cons row rows ih =>
    rw [feed] at h
    cases hpair : reader.pair index row with
    | error reason =>
      rw [hpair] at h
      cases h
      refine (read_of_pair_eq_error hpair).imp_right (Or.imp_right ?_)
      rintro ⟨error, rfl, hforeign⟩
      exact ⟨error, List.mem_cons_self, hforeign⟩
    | ok pair =>
      rw [hpair] at h
      refine (ih h).imp_right (Or.imp_right ?_)
      rintro ⟨error, hmem, hforeign⟩
      exact ⟨error, List.mem_cons_of_mem row hmem, hforeign⟩

/-- A feed fails as unreadable only at a row that cannot be fetched. -/
theorem mem_of_feed_eq_unreadable {index : Nat} {rows : List FetchedRow} {shown reason : String}
    (h : (reader.feed index rows).failure = some (.diff (.unreadable shown reason))) :
    ∃ error, .error error ∈ rows ∧ error.text = reason := by
  induction rows generalizing index with
  | nil => cases h
  | cons row rows ih =>
    rw [feed] at h
    cases hpair : reader.pair index row with
    | error failure =>
      rw [hpair] at h
      cases h
      obtain ⟨error, rfl, hreason⟩ := fetch_of_pair_eq_unreadable hpair
      exact ⟨error, List.mem_cons_self, hreason⟩
    | ok pair =>
      rw [hpair] at h
      obtain ⟨error, hmem, hreason⟩ := ih h
      exact ⟨error, List.mem_cons_of_mem row hmem, hreason⟩

/-- A feed that does not fail has a match for each row. -/
lemma length_pairs_feed {index : Nat} {rows : List FetchedRow}
    (h : (reader.feed index rows).failure = none) :
    (reader.feed index rows).pairs.length = rows.length := by
  induction rows generalizing index with
  | nil => rfl
  | cons row rows ih =>
    rw [feed] at h ⊢
    cases hpair : reader.pair index row with
    | error reason =>
      rw [hpair] at h
      cases h
    | ok pair =>
      rw [hpair] at h
      simp only [Feed.cons, List.length_cons, ih h]

/-- A feed has the matches of all rows if they are good, and else those before the first flawed row,
whose complaint it ends with. -/
theorem feed_cases (reader : RowReader) (hwidth : 0 ≤ reader.width) (rows : List StoredMatch)
    (index : Nat) :
    ((∀ row ∈ rows, row.Good reader.width.toNat) ∧
        reader.feed index (rows.map StoredMatch.fetch) = ⟨rows.map StoredMatch.pair, none⟩) ∨
      ∃ before row after failure, rows = before ++ row :: after ∧
        (∀ row ∈ before, row.Good reader.width.toNat) ∧ ¬ row.Good reader.width.toNat ∧
        Flawed reader (index + before.length) row failure ∧
        reader.feed index (rows.map StoredMatch.fetch)
          = ⟨before.map StoredMatch.pair, some failure⟩ := by
  induction rows generalizing index with
  | nil => exact .inl ⟨by simp, rfl⟩
  | cons row rows ih =>
    obtain ⟨hgood, hpair⟩ | ⟨hbad, failure, hpair, hflawed⟩ :=
      pair_cases hwidth row index
    · have hfeed : reader.feed index ((row :: rows).map StoredMatch.fetch)
          = (reader.feed (index + 1) (rows.map StoredMatch.fetch)).cons row.pair := by
        rw [List.map_cons, feed, hpair]
      obtain ⟨hall, hrest⟩ | ⟨before, bad, after, failure, rfl, hbefore, hbad, hflawed, hrest⟩ :=
        ih (index + 1)
      · refine .inl ⟨?_, ?_⟩
        · simpa using ⟨hgood, hall⟩
        · rw [hfeed, hrest]
          rfl
      · refine .inr ⟨row :: before, bad, after, failure, rfl, ?_, hbad, ?_, ?_⟩
        · simpa using ⟨hgood, hbefore⟩
        · have hindex : index + (row :: before).length = index + 1 + before.length := by
            rw [List.length_cons]
            omega
          rwa [hindex]
        · rw [hfeed, hrest]
          rfl
    · refine .inr ⟨[], row, rows, failure, rfl, by simp, hbad, hflawed, ?_⟩
      rw [List.map_cons, feed, hpair]
      rfl

end RowReader

/-! ### The rows of a store -/

namespace Database

/-- The rows of a match table in storage order. -/
def matchesOf (database : Database) (granularity : Granularity) : List StoredMatch :=
  match database.table? granularity.table with
  | none => []
  | some table => table.rows.map fun row =>
      ⟨table.stored "address1" row, table.stored "address2" row⟩

end Database

namespace Store

lemma required_of_checked {store : Store} (h : store.requireTables Schema.requiredTables = .ok ())
    (granularity : Granularity) :
    store.requireColumns granularity.table Schema.matchColumns = .ok () := by
  have hmem : (granularity.table, Schema.matchColumns) ∈ Schema.requiredTables :=
    List.mem_map_of_mem granularity.mem_all
  exact requireTables_eq_ok_iff.mp h (granularity.table, Schema.matchColumns) hmem

/-- The matches at a granularity can be queried exactly if the database knows their table and its
two columns; then all rows of the table are fetched in storage order. -/
theorem execute_matchesOf_eq_ok_iff {store : Store} (hopen : store.isOpen = true)
    {granularity : Granularity} {rows : List FetchedRow} :
    store.execute (.matchesOf granularity) = .ok rows ↔
      store.database.Knows granularity.table Schema.matchColumns ∧
        rows = (store.database.matchesOf granularity).map StoredMatch.fetch := by
  have hfetched : ∀ table : Table, store.database.table? granularity.table = some table →
      table.rows.map (table.fetched Schema.matchColumns)
        = (store.database.matchesOf granularity).map StoredMatch.fetch := by
    intro table htable
    have hrow : ∀ row, table.fetched Schema.matchColumns row
        = StoredMatch.fetch ⟨table.stored "address1" row, table.stored "address2" row⟩ := by
      intro row
      simp only [Table.fetched, Schema.matchColumns, List.mapM_cons, List.mapM_nil,
        StoredMatch.fetch, bind_assoc, pure_bind]
    rw [Database.matchesOf, htable]
    simp only [List.map_map, Function.comp_def, ← hrow]
  rw [execute_eq_ok_iff hopen, Query.matchesOf, Database.answer, Database.select_eq_ok_iff]
  constructor
  · rintro ⟨table, htable, hknows, rfl⟩
    exact ⟨⟨table, htable, hknows⟩, hfetched table htable⟩
  · rintro ⟨⟨table, htable, hknows⟩, rfl⟩
    exact ⟨table, htable, hknows, (hfetched table htable).symm⟩

/-- After the schema check each match table can be queried, and yields all of its rows. -/
theorem execute_matchesOf {store : Store} (hopen : store.isOpen = true)
    (h : store.requireTables Schema.requiredTables = .ok ()) (granularity : Granularity) :
    store.execute (.matchesOf granularity)
      = .ok ((store.database.matchesOf granularity).map StoredMatch.fetch) := by
  obtain ⟨table, htable, hcolumns⟩ := exists_table_of_required hopen
    (Database.ownName_table granularity) (required_of_checked h granularity)
  exact (execute_matchesOf_eq_ok_iff hopen).mpr
    ⟨⟨table, htable, fun column hcolumn => Table.knows_of_mem (hcolumns column hcolumn)⟩, rfl⟩

end Store
end BinaryDiff
