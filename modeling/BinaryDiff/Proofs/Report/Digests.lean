import BinaryDiff.Proofs.Config.Bounds
import BinaryDiff.Proofs.Delivery.Checking
import BinaryDiff.Proofs.Delivery.Delivered
import BinaryDiff.Proofs.Log.SettingUp
import BinaryDiff.Proofs.Report.Tallies

/-!
# What a digest shows

The sinks of a digest take every match, so the parse behind it succeeds as soon as all rows are good
(`Digest.parse_cases`), and what they have gathered then is told by the rows (`Digest.gathered`).  A
digest shows the numbers of rows, the first function matches in storage order, and the pages with
the most basic-block matches.  If the parse fails by one of its own failures, nothing but that is
shown, and not at the place of the digest (`Digest.run_faithful`).
-/

namespace BinaryDiff

namespace Digest

/-! ### What its sinks gather -/

/-- What the sinks have gathered after some offers. -/
def gathered (offers : List Offer) : Gathered :=
  ⟨⟨none, Offer.pairsTo .function offers⟩,
    .ofPages ((Offer.pairsTo .basicBlock offers).map fun pair => Tally.page pair.secondary),
    (Offer.pairsTo .instruction offers).length⟩

/-- The sinks take every match. -/
lemma sink_gathered (offers : List Offer) (offer : Offer) :
    sink offer.granularity (gathered offers) offer.pair = (gathered (offers ++ [offer]), none) := by
  obtain ⟨granularity, pair⟩ := offer
  have hown : Offer.pairsTo granularity [⟨granularity, pair⟩] = [pair] := by
    simp [Offer.pairsTo]
  have hother : ∀ other, other ≠ granularity →
      Offer.pairsTo other [⟨granularity, pair⟩] = [] := by
    intro other hne
    simp [Offer.pairsTo, hne.symm]
  cases granularity <;>
    simp [gathered, Offer.pairsTo_append, hown, hother, sink, Collector.accept, Collector.full,
      countMatch, Tally.ofPages_append_singleton]

lemma accepts_gathered (before offers : List Offer) :
    Accepts sink (gathered before) offers (gathered (before ++ offers)) := by
  induction offers generalizing before with
  | nil =>
    rw [List.append_nil]
    exact .nil _
  | cons offer offers ih =>
    rw [List.append_cons]
    exact .cons (sink_gathered before offer) (ih _)

/-- What the sinks have gathered is told by what was offered to them. -/
lemma eq_gathered {offers : List Offer} {last : Gathered} (h : Accepts sink nothing offers last) :
    last = gathered offers :=
  h.unique (accepts_gathered [] offers)

/-! ### The parse behind a digest -/

variable {around : Surroundings} {given : GivenPath} {settings : Settings} {store : Store}
  {records : MetadataPair}

/-- The parse behind a digest succeeds if all rows are good, and else fails. -/
lemma parse_cases {reader : ReaderSettings} {metadata : Option MetadataPair}
    (hwidth : 0 ≤ reader.addressWidth)
    (h : Prepared around ⟨given, true, reader.addressWidth⟩ store metadata) :
    let rows := store.database.tableRows Granularity.all
    ((∀ row ∈ rows, row.Good reader.addressWidth.toNat) ∧
        (parse around reader given).state = gathered (rows.map TableRow.offer) ∧
        (parse around reader given).outcome = .ok (Parse.result given.shown
          (Granularity.all.map fun granularity => (store.database.matchesOf granularity).length)
          metadata)) ∨
      (∃ row ∈ rows, ¬ row.Good reader.addressWidth.toNat) ∧
        ∃ failure, (parse around reader given).outcome = .error failure := by
  intro rows
  obtain ⟨failure, hreading, houtcome⟩ := h.reading hwidth sink nothing
  cases hreading with
  | completed hgood haccepts => exact .inl ⟨hgood, eq_gathered haccepts, houtcome⟩
  | halted earlier row later hrows _ haccepts hhalts =>
    refine .inr ⟨?_, _, houtcome⟩
    have hrow : row ∈ rows := by
      change row ∈ store.database.tableRows Granularity.all
      rw [hrows]
      simp
    cases hhalts with
    | flawed hbad => exact ⟨row, hrow, hbad⟩
    | refused hgood hcall =>
      -- no match is refused
      rw [eq_gathered haccepts] at hcall
      have htaken := sink_gathered (earlier.map TableRow.offer) row.offer
      cases congrArg Prod.snd (htaken.symm.trans hcall)

/-! ### The log -/

/-- Whether the name of a level is that of a constant that is none. -/
def Mistaken (level : String) : Prop :=
  String.ofList (upper level.toList) ∈ ["BASIC_FORMAT", "_STYLES"]

instance (level : String) : Decidable (Mistaken level) :=
  inferInstanceAs (Decidable (_ ∈ _))

lemma make_of_mistaken {level : String} (h : Mistaken level) (json : Bool) :
    ∃ failure, LogSetup.make level json = .error failure ∧
      failure.name ∈ ["ValueError", "TypeError"] := by
  obtain ⟨failure, hthreshold, hname⟩ := threshold_of_mistaken h
  refine ⟨failure, ?_, hname⟩
  rw [LogSetup.make, hthreshold]
  rfl

lemma make_of_not_mistaken {level : String} (h : ¬ Mistaken level) (json : Bool) :
    ∃ setup, LogSetup.make level json = .ok setup := by
  rw [LogSetup.make, threshold_of_not_mistaken h]
  exact ⟨_, rfl⟩

/-! ### What is shown -/

/-- Whether a text is the digest of a database with the records of two binaries. -/
def Shows (database : Database) (records : MetadataPair) (stdout : String) : Prop :=
  ∃ shown left,
    Tally.Ranking ((database.matchesOf .basicBlock).map fun row => row.pair.secondary) shown left ∧
    stdout = String.join (([s!"{binary records.primary} vs {binary records.secondary}",
          s!"  functions:    {(database.matchesOf .function).length}",
          s!"  basic blocks: {(database.matchesOf .basicBlock).length}",
          s!"  instructions: {(database.matchesOf .instruction).length}"]
        ++ ((database.matchesOf .function).take 10).map (fun row => s!"  {row.pair.text}")
        ++ shown.map fun entry =>
          s!"  page {Hex.signed (Tally.base entry.1)}: {entry.2} blocks").map (· ++ "\n"))

lemma shows_lines (database : Database) (records : MetadataPair) (path : String) :
    Shows database records (text (lines
      (Parse.result path
        (Granularity.all.map fun granularity => (database.matchesOf granularity).length)
        (some records))
      (gathered ((database.tableRows Granularity.all).map TableRow.offer)))) := by
  obtain ⟨left, hranking⟩ :=
    Tally.ranking ((database.matchesOf .basicBlock).map fun row => row.pair.secondary)
  refine ⟨_, left, hranking, ?_⟩
  rw [lines, gathered]
  simp only [Offer.pairsTo_tableRows, List.map_map, List.length_map, ← List.map_take]
  rfl

lemma run_of_make {setup : LogSetup} (h : loadConfig around none = .ok settings)
    (hmake : LogSetup.make settings.logging.level settings.logging.json = .ok setup) :
    run around given = runWith around settings.reader setup given := by
  rw [run, h]
  simp only [hmake]

lemma run_of_make_eq_error {failure : Failure} (h : loadConfig around none = .ok settings)
    (hmake : LogSetup.make settings.logging.level settings.logging.json = .error failure) :
    run around given = ⟨none, [], "", "", .unhandled failure⟩ := by
  rw [run, h]
  simp only [hmake]

lemma runWith_of_ok {reader : ReaderSettings} (setup : LogSetup) {result : ParseResult}
    (h : (parse around reader given).outcome = .ok result) :
    runWith around reader setup given = ⟨setup, (parse around reader given).events,
      text (lines result (parse around reader given).state), "", .status 0⟩ := by
  rw [runWith]
  simp only [h]

lemma runWith_of_error {reader : ReaderSettings} (setup : LogSetup) {error : DiffError}
    (h : (parse around reader given).outcome = .error (.diff error)) :
    runWith around reader setup given = ⟨setup, (parse around reader given).events, "",
      complaint error ++ "\n", .status 1⟩ := by
  rw [runWith]
  simp only [h]

/-- Under a configuration by which the log can be set up, the digest of a diff result that can be
parsed shows what is in it: the numbers of rows of the three tables, the first ten function matches
in storage order, and the five pages with the most basic-block matches.  If the parse fails by one
of its own failures, there is a complaint but no digest.  The log cannot be set up for the names of
two constants that are no levels, and then there is neither. -/
theorem run_faithful (h : loadConfig around none = .ok settings) (given : GivenPath) :
    (¬ Mistaken settings.logging.level →
      (∀ result, (parse around settings.reader given).outcome = .ok result →
        ∃ store records,
          Prepared around ⟨given, true, settings.reader.addressWidth⟩ store (some records) ∧
          (run around given).ending = .status 0 ∧ (run around given).stderr = "" ∧
          Shows store.database records (run around given).stdout) ∧
      ∀ error, (parse around settings.reader given).outcome = .error (.diff error) →
        (run around given).ending = .status 1 ∧ (run around given).stdout = "" ∧
          (run around given).stderr = s!"{error.kind}: {error.message}\n") ∧
    (Mistaken settings.logging.level → (run around given).stdout = "" ∧
      ∃ failure, (run around given).ending = .unhandled failure ∧
        failure.name ∈ ["ValueError", "TypeError"]) := by
  refine ⟨fun hlevel => ?_, fun hlevel => ?_⟩
  · obtain ⟨setup, hmake⟩ := make_of_not_mistaken hlevel settings.logging.json
    rw [run_of_make h hmake]
    refine ⟨fun result hresult => ?_, fun error herror => ?_⟩
    · obtain ⟨store, metadata, hprepared⟩ := Prepared.of_parse hresult
      obtain ⟨records, rfl⟩ := Option.isSome_iff_exists.mp hprepared.isSome_metadata
      have hleast := (bounded_of_loadConfig h).1.least
      have hwidth : 0 ≤ settings.reader.addressWidth := by omega
      obtain ⟨-, hstate, houtcome⟩ | ⟨-, failure, hfailure⟩ := parse_cases hwidth hprepared
      · have hshown := shows_lines store.database records given.shown
        rw [← hstate] at hshown
        rw [runWith_of_ok setup houtcome]
        exact ⟨store, records, hprepared, rfl, rfl, hshown⟩
      · cases hfailure.symm.trans hresult
    · rw [runWith_of_error setup herror]
      exact ⟨rfl, rfl, rfl⟩
  · obtain ⟨failure, hmake, hname⟩ := make_of_mistaken hlevel settings.logging.json
    rw [run_of_make_eq_error h hmake]
    exact ⟨rfl, failure, rfl, hname⟩

end Digest

namespace Sample

/-- A database whose rows are all good, with basic-block matches in two pages. -/
def blocks : Database :=
  ⟨[⟨"function", ["address1", "address2"], [[.integer 4096, .integer 8192]]⟩,
    ⟨"basicblock", ["address1", "address2"],
      [[.integer 4096, .integer 8192], [.integer 4112, .integer 12288],
       [.integer 4128, .integer 12292]]⟩,
    ⟨"instruction", ["address1", "address2"], [[.integer 4096, .integer 8192]]⟩,
    records]⟩

/-- Surroundings with that database and a configuration file. -/
def configuredBlocks (text : String) : Surroundings :=
  ⟨⟨[(["a.db"], .file (.database blocks false)),
      (["vxsig.yaml"], .file (.bytes text.toUTF8.data.toList))]⟩, ⟨1, []⟩, ⟨1, ["home"]⟩, [], []⟩

lemma prepared_blocks (text : String) :
    Prepared (configuredBlocks text) request ⟨"a.db", blocks, true⟩ (some metadata) where
  opened := rfl
  checked := by
    rw [Store.validate_outcome, Store.requireTables_eq_ok_iff]
    simp only [Store.requireColumns_eq_ok_iff (show Store.isOpen ⟨"a.db", blocks, true⟩ from rfl)]
    decide
  recorded := ⟨metadata, extract_of_records rfl rfl, rfl⟩

lemma parsed_blocks (text : String) :
    ∃ result,
      (Digest.parse (configuredBlocks text) .default request.given).outcome = .ok result := by
  have hgood : ∀ row ∈ blocks.tableRows Granularity.all, row.Good 64 := by decide
  have hwidth : 0 ≤ ReaderSettings.default.addressWidth := by decide
  obtain ⟨-, -, houtcome⟩ | ⟨⟨row, hrow, hbad⟩, -⟩ :=
    Digest.parse_cases hwidth (prepared_blocks text)
  · exact ⟨_, houtcome⟩
  · exact absurd (hgood row hrow) hbad

end Sample

namespace Digest

/-- In the sample nothing is configured. -/
theorem run_faithful_sample :
    loadConfig (Sample.configuredBlocks "") none = .ok .default ∧
      ¬ Mistaken Settings.default.logging.level ∧
      ∃ store records, Prepared (Sample.configuredBlocks "") Sample.request store (some records) ∧
        (run (Sample.configuredBlocks "") Sample.request.given).ending = .status 0 ∧
        Shows store.database records
          (run (Sample.configuredBlocks "") Sample.request.given).stdout := by
  have hload : loadConfig (Sample.configuredBlocks "") none = .ok .default :=
    Except.eq_ok_of_toOption (by decide +kernel)
  have hlevel : ¬ Mistaken Settings.default.logging.level := by decide
  obtain ⟨result, hresult⟩ := Sample.parsed_blocks ""
  obtain ⟨store, records, hprepared, hending, -, hshows⟩ :=
    ((run_faithful hload Sample.request.given).1 hlevel).1 result hresult
  exact ⟨hload, hlevel, store, records, hprepared, hending, hshows⟩

/-- A diff result that can be parsed is not shown if the configured level is the name of a
constant. -/
theorem run_fails_for_constant :
    let around := Sample.configuredBlocks "logging: \x7blevel: basic_format\x7d"
    ∃ settings, loadConfig around none = .ok settings ∧
      (∃ result, (parse around settings.reader Sample.request.given).outcome = .ok result) ∧
      (run around Sample.request.given).stdout = "" ∧
      (run around Sample.request.given).ending = .unhandled (.raised "ValueError"
        "Unknown level: '%(levelname)s:%(name)s:%(message)s'") := by
  intro around
  have hload : loadConfig around none = .ok ⟨.default, ⟨"basic_format", false⟩⟩ :=
    Except.eq_ok_of_toOption (by decide +kernel)
  have hmake : LogSetup.make "basic_format" false = .error (.raised "ValueError"
      "Unknown level: '%(levelname)s:%(name)s:%(message)s'") := by decide +kernel
  have hrun : run around Sample.request.given = _ := run_of_make_eq_error hload hmake
  refine ⟨_, hload, Sample.parsed_blocks _, ?_⟩
  rw [hrun]
  exact ⟨rfl, rfl⟩

end Digest

end BinaryDiff
