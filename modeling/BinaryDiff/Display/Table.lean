import BinaryDiff.Display.Rendering
import BinaryDiff.Display.Wrap
import BinaryDiff.Number.Natural

/-! # Tables

A table has a heavy head and light rows. Every column is as wide as the widest line in it, with a
space on either side, unless the whole table would be wider than the console. Where the cells of a
row differ in height, those of the head stand at its bottom and all others at its top. The title is
centred above. -/

namespace BinaryDiff

/-- The contents of a table, as markup. -/
structure TableText where
  title : Option String
  header : List String
  rows : List (List String)
deriving DecidableEq, Repr

namespace TableText

/-- Takes a total in equal shares from values with bounds on what each can give. A value whose bound
is zero has no share; `sharers` is the number of the others. -/
def takeShares : Nat → Nat → List (Nat × Nat) → List Nat
  | _, _, [] => []
  | rest, sharers, (value, bound) :: others =>
    if bound = 0 then value :: takeShares rest sharers others
    else
      let share := min bound (nearest rest sharers)
      (value - share) :: takeShares (rest - share) (sharers - 1) others

/-- Takes a total in equal shares from values with bounds on what each can give. -/
def reduce (whole : Nat) (bounded : List (Nat × Nat)) : List Nat :=
  takeShares whole (bounded.countP (·.2 != 0)) bounded

/-- Makes the widest columns narrower until the table fits or all columns are equally wide. -/
def collapse (limit : Nat) : Nat → List Nat → List Nat
  | 0, widths => widths
  | fuel + 1, widths =>
    let excess := total widths - limit
    let widest := widths.foldl max 0
    let second := (widths.filter (· != widest)).foldl max 0
    if excess = 0 || widest = second then widths
    else
      let bound := min excess (widest - second)
      collapse limit fuel
        (reduce excess (widths.map fun width => (width, if width = widest then bound else 0)))

/-- Takes from all columns alike what is still too much. -/
def squeeze (limit : Nat) (widths : List Nat) : List Nat :=
  reduce (total widths - limit) (widths.map fun width => (width, width))

/-- What some columns have for themselves on a console of a width: an edge stands before each of
them and one behind the last. -/
def room (width count : Nat) : Nat := width - (count + 1)

/-- The widths of the columns with their padding on a console of a width, given the widths that they
want. -/
def fit (width : Nat) (wanted : List Nat) : List Nat :=
  let limit := room width wanted.length
  let wanted := wanted.map (min · limit)
  if total wanted ≤ limit then wanted
  else
    let widths := squeeze limit (collapse limit (total wanted + 1) wanted)
    (wanted.zip widths).map fun pair => min pair.1 pair.2

/-- The line that is made of a part for every column between two edges. -/
def frame (left between right : Char) (parts : List (List Char)) : List Char :=
  left :: (List.intersperse [between] parts).flatten ++ [right]

/-- A line across the table. -/
def rule (left line between right : Char) (widths : List Nat) : List Char :=
  frame left between right (widths.map fun width => List.replicate width line)

/-- The place of the lines of a cell that is lower than its row. -/
inductive Alignment
  | top
  | bottom
deriving DecidableEq, Repr

/-- Lines of a width among as many blank ones as a height needs. -/
def Alignment.stretch (alignment : Alignment) (width height : Nat) (lines : List (List Char)) :
    List (List Char) :=
  let blank := List.replicate (height - lines.length) (List.replicate width ' ')
  match alignment with
  | top => lines ++ blank
  | bottom => blank ++ lines

/-- What a column has for itself between the spaces on its sides. -/
def innerWidth (width : Nat) : Nat := width - 2

/-- A line of a cell between the spaces on its sides. A column that has room for no more than these
is blank. -/
def padded (width : Nat) (line : List Char) : List Char :=
  if innerWidth width = 0 then List.replicate width ' ' else ' ' :: line ++ [' ']

/-- The lines of a row: every cell is laid out in its column, and shorter cells are filled up. -/
def rowLines (edge : Char) (alignment : Alignment) (widths : List Nat)
    (cellTexts : List StyledText) : List (List Char) :=
  let laid := (widths.zip cellTexts).map fun (width, text) =>
    (Wrap.broken (innerWidth width) text).map (Wrap.fill (innerWidth width))
  let height := laid.foldl (fun most lines => max most lines.length) 1
  (List.range height).map fun place =>
    frame edge edge edge ((widths.zip laid).map fun (width, lines) =>
      padded width ((alignment.stretch (innerWidth width) height lines).getD place []))

/-- The lines of the cells of a row in its columns, before they are filled up to its height. -/
def rowParts (widths : List Nat) (cellTexts : List StyledText) : List StyledText :=
  (widths.zip cellTexts).flatMap fun (width, text) =>
    (Wrap.broken (innerWidth width) text).map (Wrap.fitted (innerWidth width))

/-- The lines of a title above a table of a width; an empty title has none. -/
def titleParts (width : Nat) (title : String) (text : StyledText) : List StyledText :=
  if title.isEmpty then [] else (Wrap.broken width text).map (Wrap.center width)

/-- The texts at a place in all rows, the header first. -/
def column (table : TableText) (place : Nat) : List String :=
  (table.header :: table.rows).map fun row => row.getD place ""

/-- Whether the columns together have no room for a character between two spaces. No cell is looked
at then. -/
def isNarrow (console : Console) (table : TableText) : Bool :=
  room console.width table.header.length ≤ 2

/-- The shown texts of the cells at a place. -/
def shownColumn (console : Console) (table : TableText) (place : Nat) :
    Except MarkupError (List StyledText) :=
  if table.isNarrow console then .ok ((table.column place).map fun _ => ⟨[], []⟩)
  else (table.column place).mapM (Markup.shown console)

/-- The width that a column wants to have. -/
def wantedWidth (console : Console) (table : TableText) (texts : List StyledText) : Nat :=
  if table.isNarrow console then room console.width table.header.length
  else (texts.map fun text => Wrap.widest text.chars).foldl max 0 + 2

/-- The lines of the table. All texts are read as markup before the styles of any of them are
computed, those of the columns first. Where there is no room even for the edges, lines are cut
off. -/
def lines (console : Console) (table : TableText) : Except MarkupError (List (List Char)) := do
  let places := List.range table.header.length
  let columns ← places.mapM (table.shownColumn console)
  if places.isEmpty then return [[]]
  let widths := fit console.width (columns.map (table.wantedWidth console))
  let tableWidth := total widths + widths.length + 1
  let title := table.title.getD ""
  let above := titleParts tableWidth title (← Markup.shown console title)
  let row := fun place => columns.map fun texts => texts.getD place ⟨[], []⟩
  let rows := (List.range table.rows.length).map fun place => row (place + 1)
  StyledText.checkStyles (above ++ (row 0 :: rows).flatMap (rowParts widths))
  let drawn := [rule '┏' '━' '┳' '┓' widths] ++ rowLines '┃' .bottom widths (row 0)
    ++ [rule '┡' '━' '╇' '┩' widths] ++ rows.flatMap (rowLines '│' .top widths)
    ++ [rule '└' '─' '┴' '┘' widths]
  return above.map (Wrap.clip console.width) ++
    if tableWidth ≤ console.width then drawn else drawn.map (Wrap.crop console.width)

end TableText
end BinaryDiff
