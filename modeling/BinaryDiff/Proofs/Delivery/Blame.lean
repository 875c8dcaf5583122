import BinaryDiff.Proofs.Delivery.EndToEnd

/-!
# Every failure points at its row

A parse that fails while it reads matches has delivered some tables completely and has stopped in
the next one, at the row whose number is the number of matches that the sink of that table accepted.
The failure names this row: it is the complaint about the row if the row is flawed, and otherwise
the rejection of its match (`parse_blames`).
-/

namespace BinaryDiff

variable {σ : Type}

/-! ### The table and the number of a row -/

/-- The rows before a row are those of the tables before its own, and the rows before it there. -/
lemma Database.tableRows_split {database : Database} {granularities : List Granularity}
    {earlier later : List TableRow} {row : TableRow}
    (h : database.tableRows granularities = earlier ++ row :: later) :
    ∃ before after done rest, granularities = before ++ row.granularity :: after ∧
      earlier = database.tableRows before ++ done.map (TableRow.mk row.granularity) ∧
      database.matchesOf row.granularity = done ++ row.stored :: rest := by
  induction granularities generalizing earlier with
  | nil => simp [tableRows] at h
  | cons granularity others ih =>
    have hcons : ∀ others, database.tableRows (granularity :: others)
        = (database.matchesOf granularity).map (TableRow.mk granularity)
          ++ database.tableRows others := fun _ => rfl
    -- the row lies in the rest, either after some of its rows or as the first of them, or here
    have hlater : ∀ rows, database.tableRows others = rows ++ row :: later →
        earlier = (database.matchesOf granularity).map (TableRow.mk granularity) ++ rows →
        ∃ before after done rest, granularity :: others = before ++ row.granularity :: after ∧
          earlier = database.tableRows before ++ done.map (TableRow.mk row.granularity) ∧
          database.matchesOf row.granularity = done ++ row.stored :: rest := by
      intro rows hrows hearlier
      obtain ⟨before, after, done, rest, rfl, rfl, hmatches⟩ := ih hrows
      refine ⟨granularity :: before, after, done, rest, rfl, ?_, hmatches⟩
      rw [hearlier, hcons, List.append_assoc]
    rw [hcons] at h
    rcases List.append_eq_append_iff.mp h with ⟨rows, rfl, hrest⟩ | ⟨here, htable, hrest⟩
    · exact hlater rows hrest rfl
    · cases here with
      | nil =>
        refine hlater [] (by simpa using hrest.symm) ?_
        rw [htable]
        simp
      | cons first here =>
        obtain ⟨rfl, -⟩ := List.cons.inj hrest
        obtain ⟨done, rest, hmatches, rfl, hhere⟩ := List.map_eq_append_iff.mp htable
        obtain ⟨stored, rest, rfl, rfl, -⟩ := List.map_eq_cons_iff.mp hhere
        exact ⟨[], others, done, rest, rfl, rfl, hmatches⟩

lemma TableRow.ordinal_tableRows {database : Database} {granularity : Granularity}
    {granularities : List Granularity} (h : granularity ∉ granularities) :
    ordinal granularity (database.tableRows granularities) = 0 := by
  rw [ordinal, List.countP_eq_zero]
  intro row hrow
  have hmem := granularity_of_mem_tableRows hrow
  simp only [decide_eq_true_eq]
  rintro rfl
  exact h hmem

namespace Call

/-- The number of calls by which the sink of a granularity accepted a match. -/
def acceptedBy (granularity : Granularity) (calls : List Call) : Nat :=
  calls.countP fun call => decide (call.offer.granularity = granularity ∧ call.complaint = none)

lemma acceptedBy_append (granularity : Granularity) (calls others : List Call) :
    acceptedBy granularity (calls ++ others)
      = acceptedBy granularity calls + acceptedBy granularity others :=
  List.countP_append

lemma acceptedBy_map_accepted (granularity : Granularity) (rows : List TableRow) :
    acceptedBy granularity (rows.map fun row => accepted row.offer)
      = TableRow.ordinal granularity rows := by
  rw [acceptedBy, List.countP_map, TableRow.ordinal]
  refine List.countP_congr fun row _ => ?_
  simp only [Function.comp_apply, offer_accepted, complaint_accepted, and_true, decide_eq_true_eq]
  exact Iff.rfl

end Call

/-! ### The failure -/

/-- What a parse makes of the row of a given number in a match table, at which it halts because of a
complaint about the row's match or, without one, because of the row itself. -/
inductive Blamed (path : String) (width : Int) (granularity : Granularity) (index : Nat)
    (row : StoredMatch) : Option Failure → Failure → Prop
  /-- The complaint of a sink becomes the cause of a rejection. -/
  | refused {complaint : Failure} : row.Good width.toNat → complaint.escape? = none →
      Blamed path width granularity index row (some complaint)
        (.diff (.rejected granularity row.pair index
          (if complaint.text = "" then complaint.name else complaint.text) (some path)
          (.complaint complaint)))
  /-- A request to stop is no complaint and passes through. -/
  | interrupted {name text : String} : row.Good width.toNat →
      Blamed path width granularity index row (some (.interrupted name text))
        (.interrupted name text)
  /-- The failure to find words for a complaint takes its place. -/
  | wordless {name kind text : String} : row.Good width.toNat →
      Blamed path width granularity index row (some (.wordless name kind text))
        (.raised kind text)
  /-- The row is complained about without any sink having been called with it. -/
  | flawed {failure : Failure} : ¬ row.Good width.toNat →
      Flawed ⟨path, granularity, width⟩ index row failure →
      Blamed path width granularity index row none failure

lemma blamed_refusal {path : String} {width : Int} {granularity : Granularity} {index : Nat}
    {row : StoredMatch} (hgood : row.Good width.toNat) (complaint : Failure) :
    Blamed path width granularity index row (some complaint)
      (Dispatch.refusal granularity index row.pair (some path) complaint) := by
  rw [Dispatch.refusal]
  cases hescape : complaint.escape? with
  | some failure =>
    obtain ⟨rfl, name, text, rfl⟩ | ⟨name, kind, text, rfl, rfl⟩ := Failure.escape?_eq_some hescape
    · exact .interrupted hgood
    · exact .wordless hgood
  | none =>
    have hsay : complaint.say = if complaint.text = "" then complaint.name else complaint.text := by
      simp [Failure.say]
    rw [Option.getD_none, Dispatch.rejection, hsay]
    exact .refused hgood hescape

section Parse

variable {around : Surroundings} {request : ParseRequest} {store : Store}
  {metadata : Option MetadataPair}

/-- The calls that were made when a parse halts at a row, after all calls but the last were
accepted. -/
def callsUpTo (database : Database) (before : List Granularity) (granularity : Granularity)
    (index : Nat) (last : Option Call) : List Call :=
  (database.tableRows before).map (fun row => Call.accepted row.offer)
    ++ ((database.matchesOf granularity).take index).map
        (fun stored => Call.accepted ⟨granularity, stored.pair⟩)
    ++ last.toList

/-- Every failure of a parse while it reads matches points at a row.  The tables before that row's
have been delivered completely and no sink of a later table has been called; in its own table, the
number of the row is the number of matches that were accepted; and the failure is the one that the
row calls for. -/
theorem parse_blames (h : Prepared around request store metadata) (hwidth : 0 ≤ request.width)
    (sinks : Granularity → Sink σ) (state : σ) {failure : Failure}
    (hfailure : (parse around request sinks state).outcome = .error failure) :
    ∃ before granularity after row complaint,
      let calls := (parse around request (recording sinks) ⟨state, []⟩).state.calls
      let index := Call.acceptedBy granularity calls
      Granularity.all = before ++ granularity :: after ∧
        (store.database.matchesOf granularity)[index]? = some row ∧
        calls = callsUpTo store.database before granularity index
          (complaint.map fun complaint => ⟨⟨granularity, row.pair⟩, some complaint⟩) ∧
        Blamed request.given.shown request.width granularity index row complaint failure := by
  have houtcome :
      (parse around request (recording sinks) ⟨state, []⟩).outcome = .error failure := by
    rw [← parse_recording around request sinks ⟨state, []⟩] at hfailure
    exact hfailure
  obtain ⟨reason, hreading, hreason⟩ := h.reading hwidth (recording sinks) ⟨state, []⟩
  rw [houtcome] at hreason
  cases hreading with
  | completed => cases hreason
  | @halted earlier row later between _ _ hrows hgood haccepts hhalts =>
    cases hreason
    obtain ⟨before, after, done, rest, hall, rfl, hmatches⟩ := Database.tableRows_split hrows
    obtain ⟨-, hcalls⟩ := haccepts.of_recording
    -- no table occurs twice, so the rows of its own table are those counted by the accepted calls
    have hfresh : row.granularity ∉ before := by
      have hnodup : Granularity.all.Nodup := by decide
      rw [hall] at hnodup
      exact fun hmem => (List.nodup_append.mp hnodup).2.2 _ hmem _ (by simp) rfl
    have hordinal : TableRow.ordinal row.granularity
          (store.database.tableRows before ++ done.map (TableRow.mk row.granularity))
        = done.length := by
      rw [TableRow.ordinal_append, TableRow.ordinal_tableRows hfresh, TableRow.ordinal_map_mk,
        Nat.zero_add]
    have hrow : (store.database.matchesOf row.granularity)[done.length]? = some row.stored := by
      rw [hmatches]
      simp
    have hdone : between.calls
        = callsUpTo store.database before row.granularity done.length none := by
      rw [hcalls, callsUpTo, hmatches, List.take_left' rfl]
      simp only [List.nil_append, List.map_append, List.map_map, Option.toList_none,
        List.append_nil]
      rfl
    have hcount : Call.acceptedBy row.granularity between.calls = done.length := by
      rw [hcalls, List.nil_append, List.map_map]
      exact (Call.acceptedBy_map_accepted _ _).trans hordinal
    rw [hordinal] at hhalts
    generalize (parse around request (recording sinks) ⟨state, []⟩).state = last at hhalts
    cases hhalts with
    | flawed hbad hflawed =>
      refine ⟨before, row.granularity, after, row.stored, none, hall, ?_, ?_, ?_⟩
      · rw [hcount, hrow]
      · rw [hcount, hdone]
        rfl
      · rw [hcount]
        exact .flawed hbad hflawed
    | @refused _ complaint hgood hcall =>
      obtain ⟨-, hlast⟩ := recording_eq_some
        (show recording sinks row.offer.granularity _ row.offer.pair = _ from hcall)
      have hindex : Call.acceptedBy row.granularity last.calls = done.length := by
        rw [hlast, Call.acceptedBy_append, hcount]
        simp [Call.acceptedBy]
      refine ⟨before, row.granularity, after, row.stored, some complaint, hall, ?_, ?_, ?_⟩
      · rw [hindex, hrow]
      · rw [hindex, hlast, hdone]
        simp [callsUpTo, TableRow.offer]
      · rw [hindex]
        exact blamed_refusal hgood complaint

/-- In the sample the complaint about the second match of basic blocks, which says nothing, is
blamed on that match. -/
theorem parse_blames_sample :
    let failure : Failure := .diff (.rejected .basicBlock ⟨7, 8⟩ 1 "ValueError" (some "a.db")
      (.complaint (.raised "ValueError" "")))
    Prepared Sample.around Sample.request Sample.store (some Sample.metadata) ∧
      0 ≤ Sample.request.width ∧
      (parse Sample.around Sample.request (Sample.refuseCall 4) 0).outcome = .error failure ∧
      ∃ granularity index row complaint,
        (Sample.database.matchesOf granularity)[index]? = some row ∧
          Blamed "a.db" 64 granularity index row complaint failure := by
  intro failure
  have houtcome :
      (parse Sample.around Sample.request (Sample.refuseCall 4) 0).outcome = .error failure := by
    rw [(Sample.prepared.parse_eq (Sample.refuseCall 4) 0).2]
    rfl
  obtain ⟨before, granularity, after, row, complaint, -, hrow, -, hblamed⟩ :=
    parse_blames Sample.prepared (by decide) (Sample.refuseCall 4) 0 houtcome
  exact ⟨Sample.prepared, by decide, houtcome, granularity, _, row, complaint, hrow, hblamed⟩

end Parse
end BinaryDiff
