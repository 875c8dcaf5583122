import BinaryDiff.Proofs.Delivery.Reading

/-!
# A parse from the stored rows to the calls on the sinks

Once a store has been opened and prepared, the calls that a parse makes are determined by the stored
rows and the answers of the sinks: the matches of the good rows are offered in order until a row is
flawed or a sink complains, and the parse succeeds exactly if neither happens.
-/

namespace BinaryDiff

variable {σ : Type} {sinks : Granularity → Sink σ}

/-! ### Opened and prepared stores -/

/-- The work of a parse before it reads any match: the store is opened, its schema is checked, and
the records of the two binaries are read if they are wanted. -/
structure Prepared (around : Surroundings) (request : ParseRequest) (store : Store)
    (metadata : Option MetadataPair) : Prop where
  opened : (Store.openAt around request.given).outcome = .ok store
  checked : (store.validate Schema.requiredTables).outcome = .ok ()
  recorded : if request.metadataRequested then
      ∃ pair, (Metadata.extract store).outcome = .ok pair ∧ metadata = some pair
    else metadata = none

/-- The tables that a parse checks, with the columns that it requires of them, in the order in which
it does; it may want the records of the two binaries. -/
def Schema.checked (metadataRequested : Bool) : List (String × List String) :=
  requiredTables ++ if metadataRequested then [(metadataTable, metadataColumns)] else []

lemma Parse.prepare_outcome (store : Store) (metadataRequested : Bool) (host : Host := .plain) :
    (Parse.prepare store metadataRequested host).outcome = (do
      store.requireTables Schema.requiredTables host
      if metadataRequested then return some (← (Metadata.extract store host).outcome)
      else return none) := by
  rw [Parse.prepare, Logged.outcome_bind, Store.validate_outcome _ _ host]
  cases metadataRequested with
  | false => rfl
  | true =>
    simp only [if_true, Logged.outcome_bind]
    rfl

/-- The preparations check all tables before they read the records. -/
lemma Parse.prepare_checks (store : Store) (metadataRequested : Bool) (host : Host := .plain) :
    (Parse.prepare store metadataRequested host).outcome = (do
      store.requireTables (Schema.checked metadataRequested) host
      if metadataRequested then
        return some (← Metadata.readPair store.path
          (← store.execute .metadata host >>= Store.fetchAll))
      else return none) := by
  rw [prepare_outcome store metadataRequested host, Schema.checked, Store.requireTables_append]
  cases store.requireTables Schema.requiredTables host with
  | error failure => rfl
  | ok =>
    cases metadataRequested with
    | false => rfl
    | true =>
      simp only [if_true, Store.requireTables_singleton, Metadata.extract_outcome store host,
        bind_assoc]

namespace Prepared

variable {around : Surroundings} {request : ParseRequest} {store : Store}
  {metadata : Option MetadataPair}

lemma isOpen (h : Prepared around request store metadata) : store.isOpen = true :=
  (Store.of_openAt h.opened).1

lemma path_eq (h : Prepared around request store metadata) : store.path = request.given.shown :=
  (Store.of_openAt h.opened).2

lemma requireTables_eq (h : Prepared around request store metadata) :
    store.requireTables Schema.requiredTables = .ok () := by
  rw [← Store.validate_outcome]
  exact h.checked

lemma isSome_metadata (h : Prepared around request store metadata) :
    metadata.isSome = request.metadataRequested := by
  have hrecorded := h.recorded
  cases hwanted : request.metadataRequested with
  | true =>
    rw [hwanted, if_pos rfl] at hrecorded
    obtain ⟨pair, -, rfl⟩ := hrecorded
    rfl
  | false =>
    rw [hwanted, if_neg (by simp)] at hrecorded
    rw [hrecorded]
    rfl

lemma prepare_outcome (h : Prepared around request store metadata) :
    (Parse.prepare store request.metadataRequested).outcome = .ok metadata := by
  have hrecorded := h.recorded
  rw [Parse.prepare_outcome, h.requireTables_eq]
  cases hwanted : request.metadataRequested with
  | true =>
    rw [hwanted, if_pos rfl] at hrecorded
    obtain ⟨pair, hpair, rfl⟩ := hrecorded
    rw [if_pos rfl, hpair]
    rfl
  | false =>
    rw [hwanted, if_neg (by simp)] at hrecorded
    rw [hrecorded]
    rfl

end Prepared

/-! ### A sample -/

namespace Sample

/-- The records of two binaries, the secondary one first. -/
def records : Table :=
  ⟨"file", ["id", "filename", "exefilename", "hash"],
    [[.integer 2, .text [98], .text [98, 50], .text [50, 50]],
     [.integer 1, .text [97], .text [97, 49], .text [49, 49]]]⟩

/-- A database with a match that is there twice, an address from the upper half of the address
space, columns in another order than they are queried in, and an instruction match without second
address. -/
def database : Database :=
  ⟨[⟨"function", ["address1", "address2"],
      [[.integer 16, .integer 32], [.integer (-1), .integer 4], [.integer 16, .integer 32]]⟩,
    ⟨"BasicBlock", ["id", "address2", "address1"],
      [[.integer 1, .integer 6, .integer 5], [.integer 2, .integer 8, .integer 7]]⟩,
    ⟨"instruction", ["address1", "address2"], [[.integer 9, .integer 10], [.integer 11, .null]]⟩,
    records]⟩

/-- A file system with the database in the file `a.db`. -/
def around : Surroundings :=
  ⟨⟨[(["a.db"], .file (.database database false))]⟩, ⟨1, []⟩, ⟨1, []⟩, [], []⟩

/-- The request to parse that file and to read the records of the two binaries. -/
def request : ParseRequest := ⟨.ofText "a.db", true, 64⟩

/-- The opened database. -/
def store : Store := ⟨"a.db", database, true⟩

/-- The records in the database. -/
def metadata : MetadataPair := ⟨⟨"a", "a1", "11"⟩, ⟨"b", "b2", "22"⟩⟩

/-- Sinks that share a count of their calls and complain about one of them without saying why. -/
def refuseCall (refused : Nat) : Granularity → Sink Nat := fun _ calls _ =>
  (calls + 1, if calls = refused then some (.raised "ValueError" "") else none)

lemma extract_of_records {store : Store} (hopen : store.isOpen = true)
    (htable : store.database.table? Schema.metadataTable = some records) :
    (Metadata.extract store).outcome = .ok metadata := by
  have hcolumns : ∀ column ∈ Schema.metadataColumns, column ∈ records.columns := by decide
  have horder : ¬ (Cell.integer 2).upTo (.integer 1) := by
    rw [Cell.upTo_integer]
    decide
  rw [Metadata.extract_outcome, Store.requireColumns_of_table hopen Database.ownName_metadataTable
    htable hcolumns (by decide), Metadata.execute_metadata hopen htable hcolumns,
    Table.sorted_of_two rfl]
  exact (if_neg horder).symm ▸ rfl

lemma prepared : Prepared around request store (some metadata) where
  opened := rfl
  checked := by
    rw [Store.validate_outcome, Store.requireTables_eq_ok_iff]
    simp only [Store.requireColumns_eq_ok_iff (show store.isOpen = true from rfl)]
    decide
  recorded := ⟨metadata, extract_of_records rfl rfl, rfl⟩

end Sample

/-! ### The calls of a reading -/

section Reading

variable {path : String} {width : Int} {rows : List TableRow} {record last : Record σ}
  {failure : Option Failure}

/-- The matches of the rows before the first that is not good. -/
def TableRow.offers (width : Nat) (rows : List TableRow) : List Offer :=
  (rows.takeWhile fun row => decide (row.Good width)).map offer

lemma TableRow.offers_of_good {width : Nat} {rows : List TableRow}
    (h : ∀ row ∈ rows, row.Good width) (others : List TableRow) :
    offers width (rows ++ others) = rows.map offer ++ offers width others := by
  rw [offers, List.takeWhile_append_of_pos (by simpa using h), List.map_append, offers]

/-- A reading calls the sinks with the matches before the first flawed row, up to the first
complaint, and it ends without failure exactly if no row is flawed and no sink complains. -/
theorem Reading.calls (h : Reading (recording sinks) path width rows record last failure) :
    last.calls = record.calls ++ callsOn sinks record.state (TableRow.offers width.toNat rows) ∧
      (failure = none ↔ (∀ row ∈ rows, row.Good width.toNat) ∧
        ∀ call ∈ callsOn sinks record.state (TableRow.offers width.toNat rows),
          call.complaint = none) := by
  cases h with
  | completed hgood haccepts =>
    obtain ⟨haccepts, hcalls⟩ := haccepts.of_recording
    have hoffers : TableRow.offers width.toNat rows = rows.map TableRow.offer := by
      simpa [TableRow.offers] using TableRow.offers_of_good hgood []
    rw [hoffers, haccepts.callsOn]
    refine ⟨hcalls, fun _ => ⟨hgood, ?_⟩, fun _ => rfl⟩
    intro call hcall
    obtain ⟨offer, -, rfl⟩ := List.mem_map.mp hcall
    rfl
  | halted earlier row later hrows hearlier haccepts hhalts =>
    obtain ⟨haccepts, hcalls⟩ := haccepts.of_recording
    have hoffers := TableRow.offers_of_good hearlier (row :: later)
    rw [← hrows] at hoffers
    -- a flawed row offers nothing; a refused one is the last that is offered
    cases hhalts with
    | flawed hbad =>
      have hnone : TableRow.offers width.toNat (row :: later) = [] := by
        simp [TableRow.offers, hbad]
      rw [hoffers, haccepts.callsOn_append, hnone]
      refine ⟨by rw [hcalls]; simp [callsOn], by simp, ?_⟩
      rintro ⟨hgood, -⟩
      exact absurd (hgood row (by simp [hrows])) hbad
    | @refused _ complaint hgood hcall =>
      have hsome : TableRow.offers width.toNat (row :: later)
          = row.offer :: TableRow.offers width.toNat later := by
        simp [TableRow.offers, hgood]
      obtain ⟨hanswer, hlast⟩ := recording_eq_some
        (show recording sinks row.offer.granularity _ row.offer.pair = _ from hcall)
      rw [hoffers, haccepts.callsOn_append, hsome, callsOn_of_refused hanswer]
      refine ⟨by rw [hlast, hcalls, List.append_assoc], by simp, ?_⟩
      rintro ⟨-, hnone⟩
      exact absurd (hnone ⟨row.offer, some complaint⟩ (by simp)) (by simp)

end Reading

/-! ### Parses -/

section Parse

lemma parse_outcome (around : Surroundings) (request : ParseRequest) (sinks : Granularity → Sink σ)
    (state : σ) :
    (parse around request sinks state).outcome = (do
      let store ← (Store.openAt around request.given).outcome
      let metadata ← (Parse.prepare store request.metadataRequested).outcome
      let counts ← (Parse.deliverTables store request.width sinks Granularity.all state).outcome
      return Parse.result request.given.shown counts metadata) := by
  rw [parse, Parse.run]
  cases (Store.openAt around request.given).outcome with
  | error failure => rfl
  | ok store =>
    cases hprepared : (Parse.prepare store request.metadataRequested).outcome with
    | error failure => simp [hprepared, bind, Except.bind]
    | ok metadata =>
      cases htables :
        (Parse.deliverTables store request.width sinks Granularity.all state).outcome <;>
        simp [hprepared, htables, bind, Except.bind, pure, Except.pure]

variable {around : Surroundings} {request : ParseRequest} {store : Store}
  {metadata : Option MetadataPair}

/-- A prepared parse ends as the delivery of its tables does. -/
lemma Prepared.parse_eq (h : Prepared around request store metadata) (sinks : Granularity → Sink σ)
    (state : σ) :
    (parse around request sinks state).state
        = (Parse.deliverTables store request.width sinks Granularity.all state).state ∧
      (parse around request sinks state).outcome
        = (Parse.deliverTables store request.width sinks Granularity.all state).outcome.map
            fun counts => Parse.result request.given.shown counts metadata := by
  constructor
  · rw [parse, Parse.run, h.opened]
    simp only [h.prepare_outcome]
    cases (Parse.deliverTables store request.width sinks Granularity.all state).outcome <;> rfl
  · rw [parse_outcome, h.opened]
    change (Parse.prepare store request.metadataRequested).outcome >>= _ = _
    rw [h.prepare_outcome]
    cases (Parse.deliverTables store request.width sinks Granularity.all state).outcome <;> rfl

/-- A prepared parse reads the rows of all tables, and succeeds exactly if the reading does not
halt; then it counts the rows of each table. -/
theorem Prepared.reading (h : Prepared around request store metadata) (hwidth : 0 ≤ request.width)
    (sinks : Granularity → Sink σ) (state : σ) :
    ∃ failure, Reading sinks request.given.shown request.width
        (store.database.tableRows Granularity.all) state
        (parse around request sinks state).state failure ∧
      (parse around request sinks state).outcome
        = match failure with
          | none => .ok (Parse.result request.given.shown (Granularity.all.map fun granularity =>
              (store.database.matchesOf granularity).length) metadata)
          | some failure => .error failure := by
  obtain ⟨hstate, houtcome⟩ := h.parse_eq sinks state
  obtain ⟨failure, hreading, htables⟩ := reading_deliverTables sinks h.isOpen h.requireTables_eq
    hwidth (show Granularity.all.Nodup by decide) state
  rw [hstate, houtcome, htables, ← h.path_eq]
  refine ⟨failure, hreading, ?_⟩
  cases failure <;> rfl

/-- What a parse does once its store is prepared: it offers the matches of the good rows, function
matches first and each table in storage order, to the sinks of their tables, up to the first row
that is not good and the first complaint.  It succeeds exactly if it meets neither, and then reports
the number of rows in each table and the records that were asked for. -/
theorem parse_delivers (h : Prepared around request store metadata) (hwidth : 0 ≤ request.width)
    (sinks : Granularity → Sink σ) (state : σ) :
    let rows := store.database.tableRows Granularity.all
    let report := parse around request (recording sinks) ⟨state, []⟩
    report.mapState Record.state = parse around request sinks state ∧
      report.state.calls = callsOn sinks state
        ((rows.takeWhile fun row => decide (row.Good request.width.toNat)).map TableRow.offer) ∧
      ((∃ result, report.outcome = .ok result) ↔
        (∀ row ∈ rows, row.Good request.width.toNat) ∧
          ∀ call ∈ report.state.calls, call.complaint = none) ∧
      ∀ result, report.outcome = .ok result →
        result.path = request.given.shown ∧
          (∀ granularity,
            result.count granularity = (store.database.matchesOf granularity).length) ∧
          result.metadata = metadata ∧ (result.metadata.isSome ↔ request.metadataRequested) := by
  intro rows report
  obtain ⟨failure, hreading, houtcome⟩ := h.reading hwidth (recording sinks) ⟨state, []⟩
  obtain ⟨hcalls, hnone⟩ := hreading.calls
  change report.outcome = _ at houtcome
  rw [List.nil_append] at hcalls
  rw [← hcalls] at hnone
  refine ⟨parse_recording around request sinks ⟨state, []⟩, hcalls, ?_, ?_⟩
  · rw [← hnone]
    cases failure with
    | none => exact ⟨fun _ => rfl, fun _ => ⟨_, houtcome⟩⟩
    | some failure =>
      refine ⟨?_, by simp⟩
      rintro ⟨result, hresult⟩
      rw [houtcome] at hresult
      exact absurd hresult (by simp)
  · intro result hresult
    cases failure with
    | some failure =>
      rw [houtcome] at hresult
      exact absurd hresult (by simp)
    | none =>
      rw [houtcome] at hresult
      cases hresult
      refine ⟨rfl, ?_, rfl, ?_⟩
      · rintro (_ | _ | _) <;> rfl
      · rw [← h.isSome_metadata]
        rfl

/-- In the sample the second match of basic blocks is the first that is complained about. -/
theorem parse_delivers_sample :
    Prepared Sample.around Sample.request Sample.store (some Sample.metadata) ∧
      0 ≤ Sample.request.width ∧
      (parse Sample.around Sample.request (recording (Sample.refuseCall 4)) ⟨0, []⟩).state.calls
        = [.accepted ⟨.function, 16, 32⟩, .accepted ⟨.function, 2 ^ 64 - 1, 4⟩,
            .accepted ⟨.function, 16, 32⟩, .accepted ⟨.basicBlock, 5, 6⟩,
            ⟨⟨.basicBlock, 7, 8⟩, some (.raised "ValueError" "")⟩] := by
  have hcalls := (parse_delivers Sample.prepared (by decide) (Sample.refuseCall 4) 0).2.1
  refine ⟨Sample.prepared, by decide, hcalls.trans ?_⟩
  decide

end Parse
end BinaryDiff
