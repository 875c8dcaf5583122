import BinaryDiff.Proofs.Command.Inspect
import BinaryDiff.Proofs.Json.RoundTrip

/-!
# What a report on a parse tells

The report names each of its parts, and `Summary.read` looks them up by these names; of the two
records it takes the one whose part is asked for, wherever it stands.  Since the printed report is
read back as it was written, it tells all of the result, so two results that are printed alike are
the same (`Display.json_loses_nothing`).
-/

namespace BinaryDiff
namespace Summary

/-! ### Reading a report -/

/-- The text in a member. -/
def text? (key : String) (object : Json) : Option String :=
  (object.member? key).bind Json.str?

/-- The record of the binary that plays a part, among some records. -/
def readRecord (role : String) (records : List Json) : Option BinaryMetadata := do
  let record ← records.find? fun record => text? "role" record == some role
  return ⟨← text? "name" record, ← text? "original_name" record, ← text? "hash" record⟩

/-- The records of the two binaries, if the report has any. -/
def readMetadata (report : Json) : Option (Option MetadataPair) :=
  match report.member? "metadata" with
  | none => some none
  | some records => do
    return some ⟨← readRecord "primary" records.items, ← readRecord "secondary" records.items⟩

/-- The count of a granularity. -/
def readCount (granularity : String) (report : Json) : Option Int := do
  let counts ← report.member? "matches"
  let count ← counts.member? granularity
  count.int?

/-- The result that a report is about. -/
def read (report : Json) : Option ParseResult := do
  return ⟨← text? "path" report, ← readCount "function" report, ← readCount "basic_block" report,
    ← readCount "instruction" report, ← readMetadata report⟩

/-! ### What is in a report -/

lemma member?_metadata (result : ParseResult) :
    (json result).member? "metadata"
      = result.metadata.map fun pair => .arr ((records pair).map .obj) := by
  rw [json]
  cases result.metadata <;> rfl

/-- Each record is found by its part. -/
lemma readMetadata_json (result : ParseResult) :
    readMetadata (json result) = some result.metadata := by
  rw [readMetadata, member?_metadata]
  cases result.metadata <;> rfl

/-- The result is found in its report. -/
theorem read_json (result : ParseResult) : read (json result) = some result := by
  have hpath : text? "path" (json result) = some result.path := rfl
  have hfunction : readCount "function" (json result) = some result.functionMatches := rfl
  have hblock : readCount "basic_block" (json result) = some result.basicBlockMatches := rfl
  have hinstruction : readCount "instruction" (json result) = some result.instructionMatches := rfl
  rw [read, hpath, hfunction, hblock, hinstruction, readMetadata_json]
  rfl

/-! ### Reports can be printed -/

lemma regular_record (role : String) (metadata : BinaryMetadata) :
    (Json.obj (record role metadata)).Regular := by
  refine .obj (by decide : ["role", "name", "original_name", "hash"].Nodup) ?_
  intro member hmember
  simp only [record, List.mem_cons, List.not_mem_nil, or_false] at hmember
  rcases hmember with rfl | rfl | rfl | rfl <;> exact .str _

lemma regular_counts (result : ParseResult) : (counts result).Regular := by
  refine .obj (by decide : ["function", "basic_block", "instruction"].Nodup) ?_
  simp only [List.forall_mem_cons, List.not_mem_nil, false_implies, implies_true, and_true]
  exact ⟨.int _, .int _, .int _⟩

/-- A report has no key twice and no fractional number, whatever the texts in it are. -/
lemma regular_json (result : ParseResult) : (json result).Regular := by
  have hmetadata : ∀ pair : MetadataPair, (Json.arr ((records pair).map .obj)).Regular := by
    intro pair
    refine .arr fun item hitem => ?_
    obtain ⟨members, hmembers, rfl⟩ := List.mem_map.mp hitem
    simp only [records, List.mem_cons, List.not_mem_nil, or_false] at hmembers
    rcases hmembers with rfl | rfl <;> exact regular_record _ _
  rw [json]
  cases result.metadata with
  | none =>
    refine .obj (by decide : ["path", "matches"].Nodup) ?_
    simp only [List.append_nil, List.forall_mem_cons, List.not_mem_nil, false_implies,
      implies_true, and_true]
    exact ⟨.str _, regular_counts result⟩
  | some pair =>
    refine .obj (by decide : ["path", "matches", "metadata"].Nodup) ?_
    simp only [List.cons_append, List.nil_append, List.forall_mem_cons, List.not_mem_nil,
      false_implies, implies_true, and_true]
    exact ⟨.str _, regular_counts result, hmetadata pair⟩

lemma parse_printed (result : ParseResult) :
    Json.parse (Display.json (json result)) = some (json result) :=
  Display.parse_json (regular_json result)

end Summary

/-! ### The report of a command -/

/-- With its output as JSON, `inspect` prints the report on the result of its parse. -/
lemma InspectRequest.run_of_json {around : Surroundings} {reader : ReaderSettings}
    (console : Console) {request : InspectRequest} {result : ParseResult}
    (h : (request.parse around reader).outcome = .ok result) (hjson : request.json = true) :
    (request.run around reader console).ending = .status 0 ∧
      (request.run around reader console).stdout = Display.json (Summary.json result) := by
  rw [run, h]
  simp [output, hjson, Run.printAll]

/-- What is printed as JSON loses nothing.  Any value without fractional numbers and without a key
twice is read back from its text with its keys in their order; in particular the report on a parse
is, so the whole result is found in it, with metadata exactly if there are any, and no two results
are printed alike.  It is also what `inspect` prints of a parse that succeeds. -/
theorem Display.json_loses_nothing :
    (∀ value : Json, value.Regular → Json.parse (json value) = some value) ∧
      (∀ result : ParseResult, ∃ report,
        Json.parse (json (Summary.json result)) = some report ∧
          Summary.read report = some result ∧
          ((report.member? "metadata").isSome ↔ result.metadata.isSome)) ∧
      (∀ result other : ParseResult,
        json (Summary.json result) = json (Summary.json other) → result = other) ∧
      ∀ (around : Surroundings) (reader : ReaderSettings) (console : Console)
        (request : InspectRequest) (result : ParseResult),
        (request.parse around reader).outcome = .ok result → request.json = true →
          (request.run around reader console).ending = .status 0 ∧
            (Json.parse (request.run around reader console).stdout).bind Summary.read
              = some result := by
  have hread : ∀ result : ParseResult,
      (Json.parse (json (Summary.json result))).bind Summary.read = some result := by
    intro result
    rw [Summary.parse_printed, Option.bind_some, Summary.read_json]
  refine ⟨fun value h => parse_json h, fun result => ?_, fun result other h => ?_, ?_⟩
  · refine ⟨_, Summary.parse_printed result, Summary.read_json result, ?_⟩
    rw [Summary.member?_metadata, Option.isSome_map]
  · have hresult := hread result
    rw [h, hread other] at hresult
    exact (Option.some.inj hresult).symm
  · intro around reader console request result hresult hjson
    obtain ⟨hending, hstdout⟩ := request.run_of_json console hresult hjson
    exact ⟨hending, hstdout ▸ hread result⟩

namespace Sample

/-- A value with empty containers, and a text with characters that are escaped. -/
def value : Json :=
  .obj [("b", .arr [.int (-7), .null, .obj []]), ("", .arr []), ("a", .str "\"\\\n\x07é")]

lemma regular_value : value.Regular := by
  refine .obj (by decide) ?_
  simp only [List.forall_mem_cons, List.not_mem_nil, false_implies, implies_true, and_true]
  refine ⟨.arr ?_, .arr (by simp), .str _⟩
  simp only [List.forall_mem_cons, List.not_mem_nil, false_implies, implies_true, and_true]
  exact ⟨.int _, .null, .obj (by decide) (by simp)⟩

end Sample

/-- In the sample a name is told as it is that the tables would take for a tag. -/
theorem Display.json_loses_nothing_sample :
    let request : InspectRequest := { Sample.inspection with json := true }
    Sample.value.Regular ∧ Json.parse (json Sample.value) = some Sample.value ∧
      (request.parse (Sample.bracketAround true) .default).outcome
        = .ok (Sample.bracketResult true) ∧
      request.json = true ∧
      (Json.parse (request.run (Sample.bracketAround true) .default Sample.console).stdout).bind
        Summary.read = some (Sample.bracketResult true) := by
  intro request
  have hparse : (request.parse (Sample.bracketAround true) .default).outcome
      = .ok (Sample.bracketResult true) := Sample.parse_bracket true
  obtain ⟨hvalues, -, -, hcommand⟩ := json_loses_nothing
  exact ⟨Sample.regular_value, hvalues _ Sample.regular_value, hparse, rfl,
    (hcommand _ _ _ request _ hparse rfl).2⟩

end BinaryDiff
