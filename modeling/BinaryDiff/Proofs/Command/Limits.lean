import BinaryDiff.Proofs.Command.Matches

/-!
# Limits of the list of matches

Any number can be given to `matches` as the greatest number of matches to show, but not every number
can be counted up to.  Below `2 ^ 63` the command ends with the status 0 or that of a failure of
reading, and from the number of rows of the table on it does not matter what the limit is.  A limit
that is not below ends the command with a failure that nothing handles, as soon as the table was
queried (`MatchesRequest.run_ends`).
-/

namespace BinaryDiff

/-- From the number of rows on, a limit does not matter. -/
lemma RowReader.take_feed_of_length_le (reader : RowReader) (index : Nat) {rows : List FetchedRow}
    {limit : Nat} (h : rows.length ≤ limit) :
    (reader.feed index rows).take limit = (reader.feed index rows).take rows.length := by
  induction rows generalizing index limit with
  | nil => exact congrArg Except.ok List.take_nil
  | cons row rows ih =>
    cases limit with
    | zero => exact absurd h (Nat.not_succ_le_zero _)
    | succ limit =>
      have hrest : rows.length ≤ limit := Nat.le_of_succ_le_succ h
      rw [List.length_cons, feed]
      -- both limits let the next row through, and its failure, if it has one
      split
      · rfl
      · rw [Feed.take_cons, Feed.take_cons, ih (index + 1) hrest]

namespace MatchesRequest

variable {around : Surroundings} {reader : ReaderSettings} {console : Console}
  {request : MatchesRequest} {store : Store} {granularity : Granularity}

/-- The limit is too great to be counted up to, and this is found out: the table of the granularity
was queried. -/
def Overreaches (request : MatchesRequest) (around : Surroundings) (granularity : Granularity) :
    Prop :=
  2 ^ 63 ≤ request.limit ∧ ∃ store,
    (Store.openAt around (.ofPath request.path)).outcome = .ok store ∧
      ¬ store.database.Lacks granularity.table Schema.matchColumns

/-! ### What is selected of a store -/

lemma first_of_large {limit : Nat} (h : 2 ^ 63 ≤ limit) (cursor : MatchCursor) :
    first limit cursor = .error .limitTooLarge := by
  rw [first, if_pos (greatestLimit_lt_iff.mpr h)]

/-- What is selected depends on the limit only by what it lets through of the cursor. -/
lemma ofStore_congr_limit {width : Int} {limit other : Nat}
    (h : ∀ cursor, (MatchCursor.query store granularity width).outcome = .ok cursor →
      first limit cursor = first other cursor) :
    ofStore store width limit granularity = ofStore store width other granularity := by
  refine congrArg (store.validate [(granularity.table, Schema.matchColumns)]).andThen ?_
  funext _
  change Logged.andThen _ _ = Logged.andThen _ _
  cases hquery : (MatchCursor.query store granularity width).outcome with
  | error failure => simp only [Logged.andThen, hquery]
  | ok cursor => simp only [Logged.andThen, hquery, h cursor hquery]

/-- All limits from the number of rows of a table on select the same of it. -/
lemma ofStore_of_length_le (hopen : store.isOpen = true) (width : Int) {limit : Nat}
    (hrows : (store.database.matchesOf granularity).length ≤ limit) (hlimit : limit < 2 ^ 63) :
    ofStore store width limit granularity
      = ofStore store width (store.database.matchesOf granularity).length granularity := by
  refine ofStore_congr_limit fun cursor hcursor => ?_
  rw [MatchCursor.query_outcome] at hcursor
  cases hexecute : store.execute (.matchesOf granularity) with
  | error failure =>
    rw [hexecute] at hcursor
    cases hcursor
  | ok rows =>
    rw [hexecute] at hcursor
    cases hcursor
    obtain ⟨-, rfl⟩ := (Store.execute_matchesOf_eq_ok_iff hopen).mp hexecute
    rw [first_eq hlimit, first_eq (Nat.lt_of_le_of_lt hrows hlimit)]
    have hlength : ((store.database.matchesOf granularity).map StoredMatch.fetch).length
        = (store.database.matchesOf granularity).length := List.length_map _
    have htake := RowReader.take_feed_of_length_le ⟨store.path, granularity, width⟩ 0
      (hlength.trans_le hrows)
    rwa [hlength] at htake

/-- Unless the limit is too great for a table that lacks nothing, matches are selected of a store or
reading fails. -/
lemma ofStore_cases {width : Int} (hwidth : 0 ≤ width) (hopen : store.isOpen = true) {limit : Nat}
    (hlimit : ¬ store.database.Lacks granularity.table Schema.matchColumns → limit < 2 ^ 63) :
    (∃ pairs, (ofStore store width limit granularity).outcome = .ok pairs ∧
        ∀ pair ∈ pairs, Bounded pair) ∨
      ∃ error, (ofStore store width limit granularity).outcome = .error (.diff error) := by
  by_cases hcomplete : store.database.Lacks granularity.table Schema.matchColumns
  · obtain ⟨failure, ⟨detail, expected, actual⟩, hfailure⟩ :=
      ofStore_of_lacks hopen hcomplete limit width
    exact .inr ⟨_, hfailure⟩
  · rw [ofStore_of_complete hopen hcomplete (hlimit hcomplete)]
    have hreader : 0 ≤ (⟨store.path, granularity, width⟩ : RowReader).width := hwidth
    rcases RowReader.take_feed_cases hreader (store.database.matchesOf granularity) limit with
      ⟨-, hfeed⟩ | ⟨before, row, after, failure, -, -, -, hflawed, hfeed⟩
    · exact .inl ⟨_, hfeed, List.forall_mem_map.mpr fun row _ => bounded_pair row⟩
    · obtain ⟨error, rfl, -⟩ := hflawed.exitCode
      exact .inr ⟨error, hfeed⟩

/-- The same of the whole selection, unless the path is too long for the file system. -/
lemma select_cases (hwidth : 0 ≤ reader.addressWidth)
    (hpath : around.lookup request.path ≠ .nameTooLong)
    (hreach : ¬ request.Overreaches around granularity) :
    (∃ pairs, (request.select around reader granularity).outcome = .ok pairs ∧
        ∀ pair ∈ pairs, Bounded pair) ∨
      ∃ error, (request.select around reader granularity).outcome = .error (.diff error) := by
  cases hopening : (Store.openAt around (.ofPath request.path)).outcome with
  | error failure =>
    have hselected : (request.select around reader granularity).outcome = .error failure := by
      rw [select, hopening]
    obtain rfl | ⟨⟨⟩⟩ | hunopened := Store.openAt_failure hopening
    · exact .inr ⟨_, hselected⟩
    · exact .inr ⟨_, hselected⟩
    · exact .inr ⟨_, hselected⟩
    · exact absurd hunopened.plain.2 hpath
  | ok store =>
    have hlimit : ¬ store.database.Lacks granularity.table Schema.matchColumns →
        request.limit < 2 ^ 63 :=
      fun hcomplete => Nat.lt_of_not_le fun hlarge => hreach ⟨hlarge, store, hopening, hcomplete⟩
    rw [select_outcome hopening]
    exact ofStore_cases hwidth (Store.of_openAt hopening).1 hlimit

/-! ### How the command ends -/

lemma run_of_unhandled (hlabel : Granularity.ofLabel? request.label = some granularity)
    {failure : Failure} (hother : ∀ error, failure ≠ .diff error)
    (h : (request.select around reader granularity).outcome = .error failure) :
    (request.run around reader console).ending = .unhandled failure.name failure.text := by
  rw [run_of_label hlabel, h]
  cases failure with
  | diff error => exact absurd rfl (hother error)
  | _ => rfl

lemma ending_of_overreaches (hlabel : Granularity.ofLabel? request.label = some granularity)
    (h : request.Overreaches around granularity) :
    (request.run around reader console).ending = .unhandled "ValueError"
      "Stop argument for islice() must be None or an integer: 0 <= x <= sys.maxsize." := by
  obtain ⟨hlimit, store, hopened, hcomplete⟩ := h
  have hopen := (Store.of_openAt hopened).1
  have hselected : (request.select around reader granularity).outcome = .error .limitTooLarge := by
    rw [select_outcome hopened, ofStore_outcome,
      (Store.requireColumns_table hopen granularity).mpr hcomplete,
      execute_of_complete hopen hcomplete]
    exact first_of_large hlimit _
  exact run_of_unhandled hlabel (by simp) hselected

lemma ending_of_nameTooLong (hlabel : Granularity.ofLabel? request.label = some granularity)
    (h : around.lookup request.path = .nameTooLong) :
    (request.run around reader console).ending
      = .unhandled "OSError" s!"[Errno 36] File name too long: {quoted request.path.text}" := by
  have hopening : (Store.openAt around (.ofPath request.path)).outcome
      = .error (.nameTooLong request.path.text) :=
    Store.Unopened.openAt_eq (.tooLong rfl h)
  have hselected : (request.select around reader granularity).outcome
      = .error (.nameTooLong request.path.text) := by rw [select, hopening]
  exact run_of_unhandled hlabel (by simp) hselected

/-- A limit does not matter to a command that asks for more than there is. -/
lemma run_of_length_le (hopened : (Store.openAt around (.ofPath request.path)).outcome = .ok store)
    (hlabel : Granularity.ofLabel? request.label = some granularity) {limit : Nat}
    (hrows : (store.database.matchesOf granularity).length ≤ limit) (hlimit : limit < 2 ^ 63) :
    run around reader console { request with limit }
      = run around reader console
          { request with limit := (store.database.matchesOf granularity).length } := by
  have hopen := (Store.of_openAt hopened).1
  simp only [run, Granularity.ofLabel, hlabel, select, hopened,
    ofStore_of_length_le hopen reader.addressWidth hrows hlimit]
  rfl

/-- The command ends with the status 1 if the granularity is unknown.  Else it ends with the status
0 or that of a failure of reading, unless its path is too long for the file system or its limit too
great to be counted up to.  All limits below that show the same from the number of rows of the table
on. -/
theorem run_ends (hwidth : 0 ≤ reader.addressWidth) (around : Surroundings) (console : Console)
    (request : MatchesRequest) :
    let run := request.run around reader console
    (Granularity.ofLabel? request.label = none → run.ending = .status 1) ∧
    ∀ granularity, Granularity.ofLabel? request.label = some granularity →
      let selected := (request.select around reader granularity).outcome
      (around.lookup request.path ≠ .nameTooLong → ¬ request.Overreaches around granularity →
        (∃ pairs, selected = .ok pairs ∧ run.ending = .status 0) ∨
          ∃ error, selected = .error (.diff error) ∧ run.ending = .status error.exitCode) ∧
      (request.Overreaches around granularity → run.ending = .unhandled "ValueError"
        "Stop argument for islice() must be None or an integer: 0 <= x <= sys.maxsize.") ∧
      (around.lookup request.path = .nameTooLong → run.ending = .unhandled "OSError"
        s!"[Errno 36] File name too long: {quoted request.path.text}") ∧
      ∀ store limit, (Store.openAt around (.ofPath request.path)).outcome = .ok store →
        let size := (store.database.matchesOf granularity).length
        size ≤ limit → limit < 2 ^ 63 →
          MatchesRequest.run around reader console { request with limit }
            = MatchesRequest.run around reader console { request with limit := size } := by
  intro run
  refine ⟨fun hlabel => ?_, fun granularity hlabel => ⟨fun hpath hreach => ?_,
    ending_of_overreaches hlabel, ending_of_nameTooLong hlabel,
    fun store limit hopened => run_of_length_le hopened hlabel⟩⟩
  · obtain ⟨text, htext⟩ := Run.complain_eq console []
      (Failure.unknownGranularity request.label).text 1
    change (MatchesRequest.run _ _ _ _).ending = _
    simp only [MatchesRequest.run, Granularity.ofLabel, hlabel, htext]
  · obtain ⟨pairs, hselected, hbounded⟩ | ⟨error, hselected⟩ := select_cases hwidth hpath hreach
    · exact .inl ⟨pairs, hselected, (run_of_pairs hlabel hbounded hselected).1⟩
    · exact .inr ⟨error, hselected, (run_of_failure hlabel hselected).1⟩

/-- The request to list some matches of basic blocks of the sample, of which there are two. -/
def blockRequest (limit : Nat) : MatchesRequest := ⟨⟨0, ["a.db"]⟩, "basic-block", limit, true⟩

lemma sample_complete : ¬ Sample.store.database.Lacks "basicblock" Schema.matchColumns := by
  intro hlacks
  obtain ⟨column, hcolumn, hmissing⟩ := hlacks _ rfl
  exact hmissing (by revert column; decide)

lemma select_blockRequest {limit : Nat} (hrows : 2 ≤ limit) (hlimit : limit < 2 ^ 63) :
    ((blockRequest limit).select Sample.around .default .basicBlock).outcome
      = .ok [⟨5, 6⟩, ⟨7, 8⟩] := by
  have hopened : (Store.openAt Sample.around (.ofPath (blockRequest limit).path)).outcome
      = .ok Sample.store := rfl
  refine (select_outcome hopened).trans ?_
  refine (ofStore_of_complete rfl sample_complete hlimit).trans ?_
  exact (RowReader.take_feed_of_length_le _ _ hrows).trans rfl

/-- The greatest limit that can be counted up to shows the two matches of the sample as the limit
two does, and the next one ends in a failure. -/
theorem run_ends_sample :
    0 ≤ ReaderSettings.default.addressWidth ∧
      ((blockRequest (2 ^ 63 - 1)).run Sample.around .default Sample.console).ending = .status 0 ∧
      (blockRequest (2 ^ 63 - 1)).run Sample.around .default Sample.console
        = (blockRequest 2).run Sample.around .default Sample.console ∧
      ((blockRequest (2 ^ 63)).run Sample.around .default Sample.console).ending
        = .unhandled "ValueError"
          "Stop argument for islice() must be None or an integer: 0 <= x <= sys.maxsize." := by
  have hlabel : Granularity.ofLabel? "basic-block" = some .basicBlock := by decide
  have hwidth : 0 ≤ ReaderSettings.default.addressWidth := by decide
  have hpath : Sample.around.lookup ⟨0, ["a.db"]⟩ ≠ .nameTooLong := by decide
  have hsize : (Sample.store.database.matchesOf .basicBlock).length = 2 := by decide
  obtain ⟨-, hgreatest⟩ := run_ends hwidth Sample.around Sample.console (blockRequest (2 ^ 63 - 1))
  obtain ⟨-, hlarge⟩ := run_ends hwidth Sample.around Sample.console (blockRequest (2 ^ 63))
  obtain ⟨hends, -, -, hsame⟩ := hgreatest _ hlabel
  obtain ⟨-, hfails, -, -⟩ := hlarge _ hlabel
  refine ⟨hwidth, ?_, ?_, hfails ⟨Nat.le_refl _, Sample.store, rfl, sample_complete⟩⟩
  · have hselected := @select_blockRequest (2 ^ 63 - 1) (by omega) (by omega)
    have hreach : ¬ (blockRequest (2 ^ 63 - 1)).Overreaches Sample.around .basicBlock :=
      fun hreach => absurd hreach.1 (by decide)
    obtain ⟨pairs, -, hending⟩ | ⟨error, herror, -⟩ := hends hpath hreach
    · exact hending
    · rw [hselected] at herror
      cases herror
  · have hall := hsame Sample.store (2 ^ 63 - 1) rfl (by rw [hsize]; omega) (by omega)
    rw [hsize] at hall
    exact hall

/-- The limit `2 ^ 63` admits all matches of the sample, but it is not like the limit two: the
command ends in a failure that nothing handles. -/
theorem run_unhandled_of_large_limit :
    (Sample.store.database.matchesOf .basicBlock).length = 2 ∧
      ((blockRequest 2).run Sample.around .default Sample.console).ending = .status 0 ∧
      ((blockRequest (2 ^ 63)).run Sample.around .default Sample.console).ending
        = .unhandled "ValueError"
          "Stop argument for islice() must be None or an integer: 0 <= x <= sys.maxsize." := by
  have hlabel : Granularity.ofLabel? "basic-block" = some .basicBlock := by decide
  have hselected := @select_blockRequest 2 (by omega) (by omega)
  have hbounded : ∀ pair ∈ [AddressPair.mk 5 6, ⟨7, 8⟩], Bounded pair := by
    simp [Bounded]
  have hreach : (blockRequest (2 ^ 63)).Overreaches Sample.around .basicBlock :=
    ⟨Nat.le_refl _, Sample.store, rfl, sample_complete⟩
  obtain ⟨hending, -⟩ :=
    @run_of_pairs Sample.around .default Sample.console (blockRequest 2) .basicBlock hlabel _
      hbounded hselected
  exact ⟨by decide, hending,
    @ending_of_overreaches Sample.around .default Sample.console (blockRequest (2 ^ 63)) .basicBlock
      hlabel hreach⟩

end MatchesRequest
end BinaryDiff
