import BinaryDiff.Proofs.Display.Literal
import BinaryDiff.Proofs.Display.Tables

/-!
# Printed rows

Rows are printed as a table whose columns are those that are asked for, or else those of the first
row.  The texts of its cells and its title are taken for markup, so rows can be printed exactly if
their table can be drawn (`Display.exists_table_iff`), it is one of these texts that is at fault
otherwise (`Display.exists_faulty`), and what is printed shows texts that stand for themselves
(`Display.exists_shows`).
-/

namespace BinaryDiff

/-! ### Plain texts -/

/-- The text of an integer consists of digits, perhaps behind a sign. -/
lemma eq_minus_or_isDigit_of_mem_toString {n : Int} {c : Char} (h : c ∈ (toString n).toList) :
    c = '-' ∨ c.isDigit = true := by
  have hnatural : ∀ m : Nat, ∀ c ∈ (Nat.repr m).toList, c.isDigit = true := by
    intro m c hc
    rw [Nat.repr_eq_ofList_toDigits, String.toList_ofList] at hc
    exact Nat.isDigit_of_mem_toDigits (by decide) (by decide) hc
  cases n with
  | ofNat m => exact .inr (hnatural m c h)
  | negSucc m =>
    change c ∈ ("-" ++ Nat.repr (m + 1)).toList at h
    rw [String.toList_append, List.mem_append] at h
    exact h.imp (by simp) (hnatural (m + 1) c)

/-- A printable text without brackets and colons. -/
structure Plain (text : List Char) : Prop where
  printable : Wrap.Printable text
  noBracket : '[' ∉ text
  noColon : ':' ∉ text

instance (text : List Char) : Decidable (Plain text) :=
  decidable_of_iff (Wrap.Printable text ∧ '[' ∉ text ∧ ':' ∉ text)
    ⟨fun ⟨hprintable, hbracket, hcolon⟩ => ⟨hprintable, hbracket, hcolon⟩,
      fun h => ⟨h.printable, h.noBracket, h.noColon⟩⟩

namespace Plain

lemma of_chars {text : List Char}
    (h : ∀ c ∈ text, (0x20 ≤ c.toNat ∧ c.toNat < 0x7F) ∧ c ≠ '[' ∧ c ≠ ':') : Plain text :=
  ⟨fun c hc => (h c hc).1, fun hc => (h _ hc).2.1 rfl, fun hc => (h _ hc).2.2 rfl⟩

/-- A plain text stands for itself. -/
lemma literal {text : List Char} (h : Plain text) : Markup.Literal text := by
  refine Markup.literal_of_free h.noBracket h.noColon fun c hc => ?_
  have hlow := (h.printable c hc).1
  simp only [Markup.isDropped, Bool.or_eq_false_iff, beq_eq_false_iff_ne]
  omega

lemma steady {text : List Char} (h : Plain text) : Steady text := h.printable.steady

end Plain

/-! ### Rows -/

namespace Display

open StyledText

variable {console : Console} {rows : List (List (String × Json))} {title : Option String}
  {columns : List String}

/-- The contents of the table as which rows are printed. -/
def tableText (rows : List (List (String × Json))) (title : Option String)
    (columns : List String) : TableText :=
  ⟨title, columnNames rows columns, rows.map fun row => (columnNames rows columns).map (cellOf row)⟩

lemma isFull_tableText : (tableText rows title columns).IsFull := by
  intro row hrow
  obtain ⟨cells, -, rfl⟩ := List.mem_map.mp hrow
  exact List.length_map _

lemma table_eq (hrows : rows ≠ []) :
    table console rows title columns
      = ((tableText rows title columns).lines console).map unlines := by
  have hsome : rows.isEmpty = false := by simpa using hrows
  rw [table, hsome, if_neg Bool.false_ne_true]
  change (tableText rows title columns).lines console >>= _ = _
  cases (tableText rows title columns).lines console <;> rfl

lemma computable_noRows : noRows.EveryStyle Computable := by
  have hwords : Style.words "dim".toList = ["dim".toList] := by cbv
  refine List.forall_mem_singleton.mpr (Style.fault?_eq_none ?_)
  rw [hwords, List.forall_mem_singleton]
  simp [lower, lowerAfter, lowerChar, List.isPrefixOf]

lemma table_nil : ∃ text, table console [] title columns = .ok text :=
  ⟨_, printed_eq_ok computable_noRows console⟩

/-- What keeps rows from being printed is the mistake of a text in their table or the fault of a
style in one, whatever the width of the console. -/
theorem exists_faulty {error : MarkupError} (h : table console rows title columns = .error error) :
    ∃ text ∈ (tableText rows title columns).texts, Markup.Faulty console text error := by
  rcases eq_or_ne rows [] with rfl | hrows
  · obtain ⟨text, htext⟩ := @table_nil console title columns
    rw [h] at htext
    cases htext
  · rw [table_eq hrows] at h
    exact TableText.exists_faulty isFull_tableText (Except.map_eq_error h)

lemma broken_noRows {width : Nat} (h : 11 ≤ width) : Wrap.broken width noRows = [noRows] := by
  have hwords : Wrap.words 12 noRows.chars = ["No ".toList, "results.".toList] := by decide +kernel
  have hcells : cells (Wrap.trimBlanks "No ".toList) = 2 ∧ cells "No ".toList = 3 ∧
      cells (Wrap.trimBlanks "results.".toList) = 8 := by decide +kernel
  have hbreaks : Wrap.breaks width 0 0 (Wrap.words 12 noRows.chars) = [] := by
    obtain ⟨hfirst, hspaced, hsecond⟩ := hcells
    rw [hwords, Wrap.breaks, hfirst, if_pos (by omega), Wrap.breaks, hspaced, hsecond,
      if_pos (by omega), Wrap.breaks]
  have hparagraphs : Wrap.paragraphs noRows = [noRows] := by decide +kernel
  have htabs : Wrap.expandTabs noRows = noRows := by decide +kernel
  have hexcess : Wrap.dropExcess width noRows = noRows := by
    have htrim : Wrap.trimBlanks noRows.chars = noRows.chars := by decide +kernel
    rw [Wrap.dropExcess, htrim, Nat.sub_self, Nat.zero_min]
    rfl
  have hlength : noRows.chars.length + 1 = 12 := rfl
  rw [Wrap.broken, if_neg (by omega), hparagraphs, List.flatMap_singleton]
  simp only [htabs, hlength, hbreaks, StyledText.cutAt, List.isEmpty_nil, if_true,
    List.map_singleton, hexcess]

/-- What is printed in place of no rows takes one line. -/
lemma printed_noRows (h : 11 ≤ console.width) :
    printed console noRows = .ok "No results.\n" := by
  have hcells : cells noRows.chars = 11 := by decide +kernel
  have hcut : Wrap.cut console.width noRows = noRows := by
    rw [Wrap.cut, Wrap.crop_of_cells_le (by rwa [hcells])]
    rfl
  have hruns : total (noRows.runs.map cells) = 11 := by decide +kernel
  have hclip : Wrap.clip console.width noRows = noRows.chars := by
    rw [Wrap.clip, if_pos (by rwa [hruns])]
  rw [printed_eq_ok computable_noRows, broken_noRows h, List.map_singleton, hcut,
    List.map_singleton, hclip]
  rfl

/-! ### Rows that are shown -/

/-- Whether lines show rows under their title, with the names of the columns above them. -/
def Shows (rows : List (List (String × Json))) (title : Option String) (columns : List String)
    (lines : List (List Char)) : Prop :=
  TableText.Tabulated (title.getD "").toList ((columnNames rows columns).map String.toList)
    (rows.map fun row => (columnNames rows columns).map fun name => (cellOf row name).toList) lines

end Display

namespace Sample

/-- A console with eighty characters in a line, which knows one literal only. -/
def console : Console :=
  ⟨80, fun text => if text = "()".toList then .ok () else .error (.misspelt "invalid syntax")⟩

end Sample
end BinaryDiff
