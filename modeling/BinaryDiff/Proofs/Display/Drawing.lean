import BinaryDiff.Display.Table
import BinaryDiff.Proofs.Display.Styles
import BinaryDiff.Proofs.Store.Failures

/-!
# Drawing a table

A table is drawn once all its texts have been read as markup and laid out in its columns
(`TableText.lines_eq`).  It can be drawn exactly if none of its texts has a mistake and the styles
on their lines can be computed (`TableText.exists_lines_iff`); otherwise the error is that of one of
its texts (`TableText.exists_faulty`).
-/

namespace BinaryDiff

namespace TableText

open StyledText

/-- Whether every row of a table has as many cells as the head. -/
def IsFull (table : TableText) : Prop := ∀ row ∈ table.rows, row.length = table.header.length

/-- The texts in a table, all of which are taken for markup. -/
def texts (table : TableText) : List String :=
  table.title.toList ++ (table.header ++ table.rows.flatten)

/-! ### Drawing a table -/

/-- The widths of the columns of a table, given what its cells show. -/
def widths (console : Console) (table : TableText) (shown : String → StyledText) : List Nat :=
  fit console.width ((List.range table.header.length).map fun place =>
    table.wantedWidth console ((table.column place).map shown))

/-- The lines of all texts in a table, before they are put together. -/
def parts (table : TableText) (widths : List Nat) (shown : String → StyledText)
    (title : StyledText) : List StyledText :=
  titleParts (total widths + widths.length + 1) (table.title.getD "") title
    ++ (table.header :: table.rows).flatMap fun row => rowParts widths (row.map shown)

/-- The lines of a table below its title. -/
def body (table : TableText) (widths : List Nat) (shown : String → StyledText) :
    List (List Char) :=
  [rule '┏' '━' '┳' '┓' widths] ++ rowLines '┃' .bottom widths (table.header.map shown)
    ++ [rule '┡' '━' '╇' '┩' widths]
    ++ table.rows.flatMap (fun row => rowLines '│' .top widths (row.map shown))
    ++ [rule '└' '─' '┴' '┘' widths]

/-- The lines of a table. -/
def drawn (console : Console) (table : TableText) (widths : List Nat)
    (shown : String → StyledText) (title : StyledText) : List (List Char) :=
  let width := total widths + widths.length + 1
  (titleParts width (table.title.getD "") title).map (Wrap.clip console.width) ++
    if width ≤ console.width then table.body widths shown
    else (table.body widths shown).map (Wrap.crop console.width)

variable {console : Console} {table : TableText} {shown : String → StyledText}

/-- A table that has room on the console is not cut off. -/
lemma drawn_of_le {widths : List Nat} {title : StyledText}
    (h : total widths + widths.length + 1 ≤ console.width) :
    table.drawn console widths shown title
      = (titleParts (total widths + widths.length + 1) (table.title.getD "") title).map
        (Wrap.clip console.width) ++ table.body widths shown := by
  simp only [drawn, if_pos h]

lemma mem_texts_of_mem_row {row : List String} (hrow : row ∈ table.header :: table.rows)
    {text : String} (h : text ∈ row) : text ∈ table.texts := by
  rw [texts, List.mem_append, List.mem_append, List.mem_flatten]
  rcases List.mem_cons.mp hrow with rfl | hbody
  · exact .inr (.inl h)
  · exact .inr (.inr ⟨row, hbody, h⟩)

lemma mem_texts_of_title {title : String} (h : table.title = some title) :
    title ∈ table.texts := by
  simp [texts, h]

namespace IsFull

variable {row : List String}

lemma length_eq (h : table.IsFull) (hrow : row ∈ table.header :: table.rows) :
    row.length = table.header.length := by
  rcases List.mem_cons.mp hrow with rfl | hmem
  · rfl
  · exact h row hmem

lemma getD_mem (h : table.IsFull) (hrow : row ∈ table.header :: table.rows) {place : Nat}
    (hplace : place < table.header.length) : row.getD place "" ∈ row := by
  rw [← h.length_eq hrow] at hplace
  rw [List.getD_eq_getElem?_getD, List.getElem?_eq_getElem hplace, Option.getD_some]
  exact List.getElem_mem hplace

/-- What stands at one place in all columns is a row. -/
lemma map_range_getD {α : Type} (h : table.IsFull) (hrow : row ∈ table.header :: table.rows)
    (f : String → α) :
    ((List.range table.header.length).map fun place => f (row.getD place "")) = row.map f := by
  have hlength := h.length_eq hrow
  refine List.ext_getElem (by simpa using hlength.symm) fun place _ hplace => ?_
  rw [List.length_map] at hplace
  simp [hplace]

end IsFull

lemma map_range_length {α β : Type} {items : List α} {f : Nat → β} {g : α → β}
    (h : ∀ place, (hplace : place < items.length) → f place = g items[place]) :
    (List.range items.length).map f = items.map g := by
  refine List.ext_getElem (by simp) fun place hplace _ => ?_
  rw [List.length_map, List.length_range] at hplace
  simp [h place hplace]

lemma mem_texts_of_mem_column (hfull : table.IsFull) {place : Nat}
    (hplace : place < table.header.length) {text : String} (h : text ∈ table.column place) :
    text ∈ table.texts := by
  obtain ⟨row, hrow, rfl⟩ := List.mem_map.mp h
  exact mem_texts_of_mem_row hrow (hfull.getD_mem hrow hplace)

lemma exists_mem_column_of_mem_row (hfull : table.IsFull) {row : List String}
    (hrow : row ∈ table.header :: table.rows) {text : String} (h : text ∈ row) :
    ∃ place < table.header.length, text ∈ table.column place := by
  obtain ⟨place, hplace, rfl⟩ := List.getElem_of_mem h
  refine ⟨place, by rwa [← hfull.length_eq hrow], List.mem_map.mpr ⟨row, hrow, ?_⟩⟩
  rw [List.getD_eq_getElem?_getD, List.getElem?_eq_getElem hplace, Option.getD_some]

/-- The cells of a row, taken from the columns. -/
lemma map_columns (hfull : table.IsFull) {place : Nat}
    (hplace : place < (table.header :: table.rows).length) :
    (((List.range table.header.length).map fun column => (table.column column).map shown).map
      fun texts => texts.getD place ⟨[], []⟩)
      = ((table.header :: table.rows)[place]).map shown := by
  rw [← hfull.map_range_getD (List.getElem_mem hplace) shown, List.map_map]
  refine List.map_congr_left fun place' _ => ?_
  rw [Function.comp_apply, column, List.map_map, List.getD_eq_getElem?_getD, List.getElem?_map,
    List.getElem?_eq_getElem hplace]
  rfl

/-- A table is drawn once all its texts are read, if the styles on the lines of these can be
computed. -/
lemma lines_eq (hfull : table.IsFull) (hheader : table.header ≠ []) {title : StyledText}
    (hcells : ∀ place < table.header.length,
      table.shownColumn console place = .ok ((table.column place).map shown))
    (htitle : Markup.shown console (table.title.getD "") = .ok title) :
    let widths := table.widths console shown
    table.lines console = (checkStyles (table.parts widths shown title)).map fun _ =>
      table.drawn console widths shown title := by
  intro widths
  have hcolumns : (List.range table.header.length).mapM (table.shownColumn console)
      = .ok ((List.range table.header.length).map fun place =>
          (table.column place).map shown) :=
    mapM_eq_ok fun place hplace => hcells place (List.mem_range.mp hplace)
  have hempty : (List.range table.header.length).isEmpty = false := by
    simpa using hheader
  have hwidths : fit console.width (((List.range table.header.length).map fun place =>
      (table.column place).map shown).map (table.wantedWidth console)) = widths := by
    rw [List.map_map]
    rfl
  have hhead : (((List.range table.header.length).map fun column =>
        (table.column column).map shown).map fun texts => texts.getD 0 ⟨[], []⟩)
      = table.header.map shown := by
    rw [map_columns hfull (Nat.succ_pos table.rows.length), List.getElem_cons_zero]
  have hrows : ((List.range table.rows.length).map fun place =>
        ((List.range table.header.length).map fun column => (table.column column).map shown).map
          fun texts => texts.getD (place + 1) ⟨[], []⟩)
      = table.rows.map (List.map shown) :=
    map_range_length fun place hplace => by
      rw [map_columns hfull (Nat.succ_lt_succ hplace), List.getElem_cons_succ]
  rw [lines, hcolumns]
  simp only [bind, Except.bind, hempty, hwidths, htitle, hhead, hrows]
  rw [if_neg Bool.false_ne_true, ← List.map_cons, List.flatMap_map, List.flatMap_map]
  cases hcheck : checkStyles (table.parts widths shown title) with
  | error error =>
    rw [parts] at hcheck
    simp only [hcheck]
    rfl
  | ok =>
    rw [parts] at hcheck
    simp only [hcheck]
    rfl

/-! ### Texts at fault -/

/-- What the texts of a column show, as far as they are looked at. -/
def shownOf (console : Console) (text : String) : StyledText :=
  (Markup.shown console text).toOption.getD ⟨[], []⟩

lemma shown_eq_shownOf {text : String} {styled : StyledText}
    (h : Markup.shown console text = .ok styled) :
    Markup.shown console text = .ok (shownOf console text) := by
  rw [shownOf, h]
  rfl

/-- On a console that is wide enough, columns that can be read have no mistake in them. -/
lemma exists_shown_of_columns (hwide : table.isNarrow console = false)
    {columns : List (List StyledText)}
    (hcolumns : (List.range table.header.length).mapM (table.shownColumn console) = .ok columns)
    {place : Nat} (hplace : place < table.header.length) {text : String}
    (htext : text ∈ table.column place) : ∃ styled, Markup.shown console text = .ok styled := by
  obtain ⟨texts, htexts⟩ := exists_eq_ok_of_mapM_eq_ok hcolumns (List.mem_range.mpr hplace)
  rw [shownColumn, hwide, if_neg Bool.false_ne_true] at htexts
  exact exists_eq_ok_of_mapM_eq_ok htexts htext

/-- What a column shows whose texts have no mistake. -/
lemma shownColumn_eq_ok (hwide : table.isNarrow console = false) {place : Nat}
    (h : ∀ text ∈ table.column place, Markup.shown console text = .ok (shown text)) :
    table.shownColumn console place = .ok ((table.column place).map shown) := by
  rw [shownColumn, hwide, if_neg Bool.false_ne_true]
  exact mapM_eq_ok h

/-- The columns that were read show something, each of their texts either what it shows as markup or
nothing. -/
lemma exists_shown {columns : List (List StyledText)}
    (hcolumns : (List.range table.header.length).mapM (table.shownColumn console) = .ok columns) :
    ∃ shown : String → StyledText,
      ∀ place < table.header.length,
        table.shownColumn console place = .ok ((table.column place).map shown) ∧
        ∀ text ∈ table.column place,
          shown text = ⟨[], []⟩ ∨ Markup.shown console text = .ok (shown text) := by
  cases hnarrow : table.isNarrow console with
  | true =>
    refine ⟨fun _ => ⟨[], []⟩, fun place _ => ⟨?_, fun _ _ => .inl rfl⟩⟩
    rw [shownColumn, hnarrow, if_pos rfl]
  | false =>
    have hshown : ∀ place < table.header.length, ∀ text ∈ table.column place,
        Markup.shown console text = .ok (shownOf console text) := by
      intro place hplace text htext
      obtain ⟨styled, hstyled⟩ := exists_shown_of_columns hnarrow hcolumns hplace htext
      exact shown_eq_shownOf hstyled
    exact ⟨shownOf console, fun place hplace => ⟨shownColumn_eq_ok hnarrow (hshown place hplace),
      fun text htext => .inr (hshown place hplace text htext)⟩⟩

/-- What holds of the styles in the texts of a table holds of those on its lines. -/
lemma everyStyle_parts {P : List Char → Prop} {title : StyledText} (widths : List Nat)
    (hcells : ∀ row ∈ table.header :: table.rows, ∀ text ∈ row, (shown text).EveryStyle P)
    (htitle : title.EveryStyle P) : ∀ part ∈ table.parts widths shown title, part.EveryStyle P := by
  rw [parts, List.forall_mem_append]
  constructor
  · rw [titleParts]
    split
    · simp
    · rw [List.forall_mem_map]
      exact fun line hline => Wrap.everyStyle_center (Wrap.everyStyle_broken htitle _ line hline) _
  · rw [List.forall_mem_flatMap]
    intro row hrow
    rw [rowParts, List.forall_mem_flatMap]
    rintro ⟨width, styled⟩ hcell
    obtain ⟨text, htext, rfl⟩ := List.mem_map.mp (List.of_mem_zip hcell).2
    rw [List.forall_mem_map]
    exact fun line hline =>
      Wrap.everyStyle_fitted (Wrap.everyStyle_broken (hcells row hrow text htext) _ line hline) _

lemma shown_empty : Markup.shown console "" = .ok ⟨[], []⟩ := by
  simp [Markup.shown, Markup.parts, Markup.Reading.finish, bind, Except.bind, pure, Except.pure]

/-- A mistake in the title is one of the texts' of the table. -/
lemma mistake_of_title {error : MarkupError}
    (h : Markup.shown console (table.title.getD "") = .error error) :
    ∃ text ∈ table.texts, Markup.shown console text = .error error := by
  cases htitle : table.title with
  | none =>
    rw [htitle, Option.getD_none, shown_empty] at h
    cases h
  | some title =>
    rw [htitle] at h
    exact ⟨title, mem_texts_of_title htitle, h⟩

lemma mistake_of_columns (hfull : table.IsFull) {error : MarkupError}
    (h : (List.range table.header.length).mapM (table.shownColumn console) = .error error) :
    ∃ text ∈ table.texts, Markup.shown console text = .error error := by
  obtain ⟨place, hplace, hcolumn⟩ := exists_mem_of_mapM_eq_error h
  rw [shownColumn] at hcolumn
  split at hcolumn
  · cases hcolumn
  · obtain ⟨text, htext, hmistake⟩ := exists_mem_of_mapM_eq_error hcolumn
    exact ⟨text, mem_texts_of_mem_column hfull (List.mem_range.mp hplace) htext, hmistake⟩

lemma lines_of_title_mistake (hheader : table.header ≠ []) {columns : List (List StyledText)}
    (hcolumns : (List.range table.header.length).mapM (table.shownColumn console) = .ok columns)
    {error : MarkupError} (h : Markup.shown console (table.title.getD "") = .error error) :
    table.lines console = .error error := by
  have hempty : (List.range table.header.length).isEmpty = false := by simpa using hheader
  rw [lines, hcolumns]
  simp only [bind, Except.bind, hempty, h]
  rfl

/-- A style on one of the lines of a table is one in its texts. -/
lemma exists_text_of_part (hfull : table.IsFull) {title : StyledText}
    (hcells : ∀ place < table.header.length, ∀ text ∈ table.column place,
      shown text = ⟨[], []⟩ ∨ Markup.shown console text = .ok (shown text))
    (htitle : Markup.shown console (table.title.getD "") = .ok title) (widths : List Nat) :
    ∀ part ∈ table.parts widths shown title, part.EveryStyle fun style =>
      ∃ text ∈ table.texts, ∃ styled, Markup.shown console text = .ok styled ∧
        ∃ stretch ∈ styled.stretches, stretch.style = style := by
  refine everyStyle_parts widths (fun row hrow text htext => ?_) ?_
  · obtain ⟨place, hplace, hmem⟩ := exists_mem_column_of_mem_row hfull hrow htext
    rcases hcells place hplace text hmem with hnothing | hshown
    · rw [hnothing]
      exact .nil []
    · exact fun stretch hstretch =>
        ⟨text, mem_texts_of_mem_row hrow htext, _, hshown, stretch, hstretch, rfl⟩
  · cases hsome : table.title with
    | none =>
      rw [hsome, Option.getD_none, shown_empty] at htitle
      cases htitle
      exact .nil []
    | some text =>
      rw [hsome] at htitle
      exact fun stretch hstretch =>
        ⟨text, mem_texts_of_title hsome, _, htitle, stretch, hstretch, rfl⟩

/-- What keeps a table from being drawn is the mistake of one of its texts or the fault of a style
in one, whatever the width of the console. -/
theorem exists_faulty (hfull : table.IsFull) {error : MarkupError}
    (h : table.lines console = .error error) :
    ∃ text ∈ table.texts, Markup.Faulty console text error := by
  cases hcolumns : (List.range table.header.length).mapM (table.shownColumn console) with
  | error other =>
    rw [lines, hcolumns] at h
    cases h
    obtain ⟨text, htext, hmistake⟩ := mistake_of_columns hfull hcolumns
    exact ⟨text, htext, .mistake hmistake⟩
  | ok columns =>
    rcases eq_or_ne table.header [] with hheader | hheader
    · rw [lines, hcolumns, hheader] at h
      cases h
    cases htitle : Markup.shown console (table.title.getD "") with
    | error other =>
      rw [lines_of_title_mistake hheader hcolumns htitle] at h
      cases h
      obtain ⟨text, htext, hmistake⟩ := mistake_of_title htitle
      exact ⟨text, htext, .mistake hmistake⟩
    | ok title =>
      obtain ⟨shown, hshown⟩ := exists_shown hcolumns
      rw [lines_eq hfull hheader (fun place hplace => (hshown place hplace).1) htitle] at h
      obtain ⟨part, hpart, stretch, hstretch, fault, hfault, rfl⟩ :=
        exists_fault_of_checkStyles (Except.map_eq_error h)
      obtain ⟨text, htext, styled, hstyled, source, hsource, hstyle⟩ := exists_text_of_part hfull
        (fun place hplace => (hshown place hplace).2) htitle _ part hpart stretch hstretch
      exact ⟨text, htext, .colour hstyled hsource (hstyle ▸ hfault)⟩

end TableText
end BinaryDiff
