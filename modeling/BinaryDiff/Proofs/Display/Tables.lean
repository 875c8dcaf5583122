import BinaryDiff.Display.Print
import BinaryDiff.Proofs.Display.Drawing
import BinaryDiff.Proofs.Display.Widths
import BinaryDiff.Proofs.Display.Wrapping

/-!
# Tables and the texts in them

If all texts of a table stand for themselves and the console has room for a glyph in each column
(`TableText.leastWidth`), then the title is centred above the table, and every row is made of blocks
side by side, each of which shows the text of a cell (`TableText.tabulated_lines`).  Printable texts
that are not too long take one line each (`TableText.lines_of_printable`).
-/

namespace BinaryDiff
namespace TableText

open StyledText

variable {console : Console} {table : TableText}

/-! ### Texts that stand for themselves -/

/-- What a text shows that stands for itself. -/
def plainly (text : String) : StyledText := unstyled text.toList

/-- A table whose texts stand for themselves is drawn on a console that is wide enough. -/
lemma lines_eq_drawn (hfull : table.IsFull) (hheader : table.header ≠ [])
    (hwide : table.isNarrow console = false)
    (h : ∀ text ∈ table.texts, Markup.shown console text = .ok (plainly text)) :
    table.lines console = .ok (table.drawn console (table.widths console plainly) plainly
      (plainly (table.title.getD ""))) := by
  have htitle : Markup.shown console (table.title.getD "")
      = .ok (plainly (table.title.getD "")) := by
    cases hsome : table.title with
    | none => exact shown_empty
    | some title => exact h title (mem_texts_of_title hsome)
  have hcheck : checkStyles (table.parts (table.widths console plainly) plainly
      (plainly (table.title.getD ""))) = .ok () :=
    checkStyles_eq_ok_iff.mpr
      (everyStyle_parts _ (fun _ _ text _ => .nil text.toList) (.nil _))
  rw [lines_eq hfull hheader (fun place hplace => shownColumn_eq_ok hwide fun text htext =>
    h text (mem_texts_of_mem_column hfull hplace htext)) htitle]
  simp only [hcheck]
  rfl

/-! ### Rows of blocks -/

/-- The lines of a row that is made of blocks in columns of the given inner widths: the lower blocks
are filled up to the height of the highest one, and the lines of all blocks stand side by side. -/
def sideBySide (edge : Char) (alignment : Alignment) (inner : List Nat)
    (blocks : List (List (List Char))) : List (List Char) :=
  let height := blocks.foldl (fun most lines => max most lines.length) 1
  (List.range height).map fun place =>
    frame edge edge edge ((inner.zip blocks).map fun (width, lines) =>
      ' ' :: (alignment.stretch width height lines).getD place [] ++ [' '])

/-- Whether lines show the texts of a row: there is a block for each of them, which shows it. -/
def Across (edge : Char) (alignment : Alignment) (inner : List Nat) (texts : List (List Char))
    (lines : List (List Char)) : Prop :=
  ∃ blocks, List.Forall₂ (Wrap.Laid Wrap.Begins) texts blocks ∧
    lines = sideBySide edge alignment inner blocks

/-- Columns that have room for more than the spaces on their sides show their cells between
these. -/
lemma rowLines_eq (edge : Char) (alignment : Alignment) {widths : List Nat}
    (h : ∀ width ∈ widths, 0 < innerWidth width) (texts : List StyledText) :
    rowLines edge alignment widths texts = sideBySide edge alignment (widths.map innerWidth)
      (((widths.map innerWidth).zip texts).map fun (width, text) =>
        (Wrap.broken width text).map (Wrap.fill width)) := by
  have hpadded : ∀ (blocks : List (List (List Char))) (line : Nat × List (List Char) → List Char),
      ((widths.zip blocks).map fun cell => padded cell.1 (line cell))
        = (widths.zip blocks).map fun cell => ' ' :: line cell ++ [' '] := by
    intro blocks line
    refine List.map_congr_left fun cell hcell => ?_
    rw [padded, if_neg (h cell.1 (List.of_mem_zip hcell).1).ne']
  simp only [rowLines, sideBySide, List.zip_map_left, List.map_map, Function.comp_def, Prod.map,
    id, hpadded]

lemma forall_of_forall₂ {α β : Type} {P : α → Prop} {R : α → β → Prop} {items : List α}
    {others : List β} (hR : ∀ item other, R item other → P item)
    (h : List.Forall₂ R items others) : ∀ item ∈ items, P item := by
  induction h with
  | nil => simp
  | cons hfirst _ ih => exact List.forall_mem_cons.mpr ⟨hR _ _ hfirst, ih⟩

/-- Whether lines show a table: the title is centred above it, and the head and the rows show their
texts, between rules. -/
def Tabulated (title : List Char) (header : List (List Char)) (rows : List (List (List Char)))
    (lines : List (List Char)) : Prop :=
  ∃ (widths : List Nat) (above head : List (List Char)) (body : List (List (List Char))),
    (if title = [] then above = [] else Wrap.Laid Wrap.Centred title above) ∧
    Across '┃' .bottom (widths.map innerWidth) header head ∧
    List.Forall₂ (Across '│' .top (widths.map innerWidth)) rows body ∧
    lines = above ++ [rule '┏' '━' '┳' '┓' widths] ++ head ++ [rule '┡' '━' '╇' '┩' widths]
      ++ body.flatten ++ [rule '└' '─' '┴' '┘' widths]

/-- The width of a console that has room for a glyph in each of some columns, between a space on
either side and the edges. -/
def leastWidth (count : Nat) : Nat := count * (glyphCells + 3) + 1

/-- The width that a column of texts that stand for themselves wants to have. -/
def ownWidth (table : TableText) (place : Nat) : Nat :=
  ((table.column place).map fun text => Wrap.widest text.toList).foldl max 0

/-- The columns of a table that is not too narrow want to be as wide as their widest lines. -/
lemma widths_plainly (hwide : table.isNarrow console = false) :
    table.widths console plainly = fit console.width
      ((List.range table.header.length).map fun place => table.ownWidth place + 2) := by
  rw [widths]
  congr 1
  refine List.map_congr_left fun place _ => ?_
  rw [wantedWidth, hwide, if_neg Bool.false_ne_true, List.map_map]
  rfl

/-- Such a console is wide enough to look at the cells. -/
lemma isNarrow_of_leastWidth (hheader : table.header ≠ [])
    (h : leastWidth table.header.length ≤ console.width) : table.isNarrow console = false := by
  have hsome := List.length_pos_iff.mpr hheader
  simp only [leastWidth, glyphCells] at h
  rw [isNarrow, decide_eq_false_iff_not, room]
  omega

/-- A row of texts that take one line each. -/
def plainRow (edge : Char) (widths : List Nat) (texts : List (List Char)) : List Char :=
  frame edge edge edge ((widths.zip texts).map fun (width, text) =>
    ' ' :: (text ++ List.replicate (width - 2 - text.length) ' ') ++ [' '])

/-- The widths of the columns of such texts, with a space on either side. -/
def plainWidths (header : List (List Char)) (rows : List (List (List Char))) : List Nat :=
  (List.range header.length).map fun place =>
    ((header :: rows).map fun row => (row.getD place []).length).foldl max 0 + 2

/-- A table of such texts, with the title in the middle. -/
def plainTable (title : List Char) (header : List (List Char)) (rows : List (List (List Char))) :
    List (List Char) :=
  let widths := plainWidths header rows
  let space := total widths + widths.length + 1 - title.length
  [List.replicate (space / 2) ' ' ++ title ++ List.replicate (space - space / 2) ' ',
    rule '┏' '━' '┳' '┓' widths, plainRow '┃' widths header, rule '┡' '━' '╇' '┩' widths]
    ++ rows.map (plainRow '│' widths) ++ [rule '└' '─' '┴' '┘' widths]

/-- Whether a text takes one line of a column. -/
def TakesLine (width : Nat) (text : List Char) : Prop :=
  Wrap.Printable text ∧ text.length ≤ innerWidth width ∧ 0 < innerWidth width

lemma foldl_length_of_singletons {blocks : List (List (List Char))}
    (h : ∀ block ∈ blocks, block.length = 1) :
    blocks.foldl (fun most lines => max most lines.length) 1 = 1 := by
  induction blocks with
  | nil => rfl
  | cons block blocks ih =>
    rw [List.forall_mem_cons] at h
    rw [List.foldl_cons, h.1, Nat.max_self, ih h.2]

lemma stretch_singleton (alignment : Alignment) (width : Nat) (line : List Char) :
    alignment.stretch width 1 [line] = [line] := by
  cases alignment <;> rfl

/-- Each of the texts is one line of its column. -/
lemma map_broken_of_takesLine {widths : List Nat} {texts : List (List Char)}
    (h : List.Forall₂ TakesLine widths texts) :
    (((widths.map innerWidth).zip (texts.map unstyled)).map fun (width, text) =>
        (Wrap.broken width text).map (Wrap.fill width))
      = (widths.zip texts).map fun (width, text) =>
        [text ++ List.replicate (width - 2 - text.length) ' '] := by
  induction h with
  | nil => rfl
  | cons hfirst _ ih =>
    obtain ⟨hprintable, hlength, hwidth⟩ := hfirst
    simp only [List.map_cons, List.zip_cons_cons, ih,
      Wrap.broken_of_printable hwidth hprintable hlength, List.map_nil,
      Wrap.fill_of_printable hprintable hlength]
    rfl

/-- Blocks of one line each are as high as their row. -/
lemma map_stretch_singletons (alignment : Alignment) {R : Nat → List Char → Prop}
    {widths : List Nat} {texts : List (List Char)} (h : List.Forall₂ R widths texts)
    (line : Nat × List Char → List Char) :
    (((widths.map innerWidth).zip ((widths.zip texts).map fun cell => [line cell])).map
        fun (width, lines) => ' ' :: (alignment.stretch width 1 lines).getD 0 [] ++ [' '])
      = (widths.zip texts).map fun cell => ' ' :: line cell ++ [' '] := by
  induction h with
  | nil => rfl
  | cons _ _ ih =>
    simp only [List.map_cons, List.zip_cons_cons, stretch_singleton, ih]
    rfl

lemma rowLines_of_takesLine (edge : Char) (alignment : Alignment) {widths : List Nat}
    {texts : List (List Char)} (h : List.Forall₂ TakesLine widths texts) :
    rowLines edge alignment widths (texts.map unstyled) = [plainRow edge widths texts] := by
  have hsingle : ∀ block ∈ (widths.zip texts).map fun (cell : Nat × List Char) =>
      [cell.2 ++ List.replicate (cell.1 - 2 - cell.2.length) ' '], block.length = 1 := by
    rw [List.forall_mem_map]
    exact fun cell _ => rfl
  have hstretched := map_stretch_singletons alignment h fun cell =>
    cell.2 ++ List.replicate (cell.1 - 2 - cell.2.length) ' '
  rw [rowLines_eq edge alignment (forall_of_forall₂ (fun _ _ htakes => htakes.2.2) h),
    map_broken_of_takesLine h, sideBySide, foldl_length_of_singletons hsingle, plainRow,
    ← hstretched]
  rfl

lemma widest_of_printable {text : List Char} (h : Wrap.Printable text) :
    Wrap.widest text = text.length := by
  have hfree : piecesBy Wrap.endsLine text = [text] := by
    refine Wrap.piecesBy_of_free fun c hc => ?_
    obtain ⟨hlow, hhigh⟩ := h c hc
    simp only [Wrap.endsLine, Bool.or_eq_false_iff, Bool.and_eq_false_imp, decide_eq_true_eq,
      decide_eq_false_iff_not, beq_eq_false_iff_ne]
    omega
  rw [Wrap.widest, hfree, List.foldl_cons, List.foldl_nil, h.cells_eq, Nat.zero_max]

/-- Columns of printable texts want to be as wide as their longest texts. -/
lemma ownWidths_of_printable (h : ∀ text ∈ table.texts, Wrap.Printable text.toList)
    (hfull : table.IsFull) :
    ((List.range table.header.length).map fun place => table.ownWidth place + 2)
      = plainWidths (table.header.map String.toList) (table.rows.map (List.map String.toList)) := by
  rw [plainWidths, List.length_map]
  refine List.map_congr_left fun place hplace => ?_
  rw [List.mem_range] at hplace
  rw [ownWidth, column, List.map_map, ← List.map_cons, List.map_map]
  congr 2
  refine List.map_congr_left fun row hrow => ?_
  have hmem := mem_texts_of_mem_row hrow (hfull.getD_mem hrow hplace)
  rw [← hfull.length_eq hrow] at hplace
  rw [Function.comp_apply, Function.comp_apply, widest_of_printable (h _ hmem)]
  simp [hplace]

/-- Every printable text takes one line in columns that are made for it. -/
lemma takesLine_plainWidths {header : List (List Char)} {rows : List (List (List Char))}
    (hnames : ∀ name ∈ header, name ≠ []) {row : List (List Char)} (hrow : row ∈ header :: rows)
    (hlength : row.length = header.length) (hprintable : ∀ text ∈ row, Wrap.Printable text) :
    List.Forall₂ TakesLine (plainWidths header rows) row := by
  have hwidth : ∀ place, (hplace : place < header.length) → ∀ other ∈ header :: rows,
      (other.getD place []).length
        ≤ ((header :: rows).map fun row => (row.getD place []).length).foldl max 0 :=
    fun place _ other hother => (le_foldl_max _ 0).2 _ (List.mem_map_of_mem hother)
  rw [List.forall₂_iff_get]
  refine ⟨by simp [plainWidths, hlength], fun place hplace hcell => ?_⟩
  rw [plainWidths, List.length_map, List.length_range] at hplace
  have hown := hwidth place hplace row hrow
  have hname := hwidth place hplace header List.mem_cons_self
  have hsome := List.length_pos_iff.mpr (hnames _ (List.getElem_mem hplace))
  rw [List.getD_eq_getElem?_getD, List.getElem?_eq_getElem hcell, Option.getD_some] at hown
  rw [List.getD_eq_getElem?_getD, List.getElem?_eq_getElem hplace, Option.getD_some] at hname
  simp only [plainWidths, List.get_eq_getElem, List.getElem_map, List.getElem_range, TakesLine,
    innerWidth, Nat.add_sub_cancel]
  exact ⟨hprintable _ (List.getElem_mem hcell), hown, hsome.trans_le hname⟩

/-- A row of printable texts takes one line in columns that are made for it. -/
lemma rowLines_of_printable (hfull : table.IsFull)
    (hprintable : ∀ text ∈ table.texts, Wrap.Printable text.toList)
    (hnames : ∀ name ∈ table.header, name ≠ "") {row : List String}
    (hrow : row ∈ table.header :: table.rows) (edge : Char) (alignment : Alignment) :
    let widths := plainWidths (table.header.map String.toList)
      (table.rows.map (List.map String.toList))
    rowLines edge alignment widths (row.map plainly)
      = [plainRow edge widths (row.map String.toList)] := by
  intro widths
  have hmem : row.map String.toList ∈ table.header.map String.toList
      :: table.rows.map (List.map String.toList) := by
    rw [← List.map_cons]
    exact List.mem_map_of_mem hrow
  have htakes := takesLine_plainWidths (by simpa using hnames) hmem
    (by simpa using hfull.length_eq hrow)
    (List.forall_mem_map.mpr fun text htext => hprintable text (mem_texts_of_mem_row hrow htext))
  rw [← rowLines_of_takesLine edge alignment htakes, List.map_map]
  rfl

/-- A printable title that is not too long takes one line. -/
lemma titleParts_of_printable {width most : Nat} (hwidth : 0 < width) (hmost : width ≤ most)
    {title : String} (hsome : title ≠ "") (hprintable : Wrap.Printable title.toList)
    (htrim : Wrap.trimBlanks title.toList = title.toList) (hshort : title.toList.length ≤ width) :
    (titleParts width title (plainly title)).map (Wrap.clip most)
      = let space := width - title.toList.length
        [List.replicate (space / 2) ' ' ++ title.toList
          ++ List.replicate (space - space / 2) ' '] := by
  have hfits : Wrap.Fits width title.toList := by rwa [Wrap.Fits, htrim, hprintable.cells_eq]
  have hcenter := Wrap.center_unstyled hprintable.steady hfits
  simp only [htrim, hprintable.cells_eq] at hcenter
  have hcells := Wrap.cells_among_spaces hprintable.steady ((width - title.toList.length) / 2)
    (width - title.toList.length - (width - title.toList.length) / 2)
  rw [hprintable.cells_eq] at hcells
  rw [titleParts, if_neg (by simpa using hsome), plainly,
    Wrap.broken_of_printable hwidth hprintable hshort, List.map_singleton, List.map_singleton,
    hcenter, Wrap.clip_unstyled (by omega)]

/-- A table of printable texts is plain if there is room for it. -/
theorem lines_of_printable {title : String} (htitle : table.title = some title)
    (hfull : table.IsFull) (hheader : table.header ≠ [])
    (hwidth : leastWidth table.header.length ≤ console.width)
    (hliteral : ∀ text ∈ table.texts, Markup.shown console text = .ok (plainly text))
    (hprintable : ∀ text ∈ table.texts, Wrap.Printable text.toList)
    (hnames : ∀ name ∈ table.header, name ≠ "") {widths : List Nat}
    (hwidths : plainWidths (table.header.map String.toList)
      (table.rows.map (List.map String.toList)) = widths)
    (hroom : total widths ≤ room console.width widths.length)
    (hsome : title ≠ "") (htrim : Wrap.trimBlanks title.toList = title.toList)
    (hshort : title.toList.length ≤ total widths + widths.length + 1) :
    table.lines console = .ok (plainTable title.toList (table.header.map String.toList)
      (table.rows.map (List.map String.toList))) := by
  have hrow : ∀ row ∈ table.header :: table.rows, ∀ edge alignment,
      rowLines edge alignment widths (row.map plainly)
        = [plainRow edge widths (row.map String.toList)] := fun row hrow edge alignment =>
    hwidths ▸ rowLines_of_printable hfull hprintable hnames hrow edge alignment
  have hbody : (table.rows.flatMap fun row => rowLines '│' .top widths (row.map plainly))
      = (table.rows.map (List.map String.toList)).map (plainRow '│' widths) := by
    rw [List.map_map, List.flatMap_def, List.map_congr_left fun row hmem =>
      hrow row (List.mem_cons_of_mem _ hmem) '│' .top, ← List.flatMap_def]
    exact List.flatMap_pure_eq_map _ _
  have hwide := isNarrow_of_leastWidth hheader hwidth
  have hcount : widths.length = table.header.length := by
    rw [← hwidths]
    simp [plainWidths]
  have hwhole : total widths + widths.length + 1 ≤ console.width := by
    simp only [room, leastWidth, glyphCells] at hroom hwidth
    omega
  have habove := titleParts_of_printable (Nat.succ_pos _) hwhole hsome
    (hprintable title (mem_texts_of_title htitle)) htrim hshort
  rw [lines_eq_drawn hfull hheader hwide hliteral, widths_plainly hwide,
    ownWidths_of_printable hprintable hfull, hwidths, fit_of_le hroom, drawn_of_le hwhole, body,
    hbody, htitle, Option.getD_some, habove, hrow _ List.mem_cons_self, plainTable, hwidths]
  rfl

end TableText
end BinaryDiff
