import BinaryDiff.Display.Table
import BinaryDiff.Json.Print
import BinaryDiff.Text.Quoted

/-! # What is printed

Results are printed as a table or as JSON, failures as one line that begins with `Error:`. The text
of a failure is shown literally; the cells and titles of a table are taken for markup. -/

namespace BinaryDiff
namespace Display

/-- Lines as a text. -/
def unlines (lines : List (List Char)) : String :=
  String.ofList (lines.flatMap fun line => line ++ ['\n'])

/-- A text as it is printed by itself. -/
def printed (console : Console) (text : StyledText) : Except MarkupError String := do
  let lines := (Wrap.broken console.width text).map (Wrap.cut console.width)
  StyledText.checkStyles lines
  return unlines (lines.map (Wrap.clip console.width))

/-- The text of a failure as it is printed. -/
def error (console : Console) (message : String) : Except MarkupError String := do
  printed console
    (← Markup.shown console ("[bold red]Error:[/bold red] " ++ Markup.escape message))

/-- What is shown in place of no rows, all of it dim. -/
def noRows : StyledText := ⟨"No results.".toList, [⟨0, 11, "dim".toList⟩]⟩

/-- A value as it is printed. -/
def json (value : Json) : String := value.pretty ++ "\n"

mutual

/-- A value as it appears inside another. -/
def inner : Json → String
  | .null => "None"
  | .bool value => if value then "True" else "False"
  | .int value => toString value
  | .real value => value.text
  | .str value => quoted value
  | .arr items => "[" ++ ", ".intercalate (innerItems items) ++ "]"
  | .obj members => "\x7b" ++ ", ".intercalate (innerMembers members) ++ "\x7d"

/-- The items of a list. -/
def innerItems : List Json → List String
  | [] => []
  | item :: items => inner item :: innerItems items

/-- The members of an object. -/
def innerMembers : List (String × Json) → List String
  | [] => []
  | (key, value) :: members => (quoted key ++ ": " ++ inner value) :: innerMembers members

end

/-- A value as the text of a cell. -/
def cellText : Json → String
  | .str value => value
  | value => inner value

/-- The columns of a table: those that are asked for, or else those of the first row. -/
def columnNames (rows : List (List (String × Json))) (columns : List String) : List String :=
  if columns.isEmpty then (rows.head?.getD []).map Prod.fst else columns

/-- The text of the cell of a row in a column; a row need not have one. -/
def cellOf (row : List (String × Json)) (column : String) : String :=
  match row.find? (·.1 == column) with
  | some (_, value) => cellText value
  | none => ""

/-- Rows as a table. -/
def table (console : Console) (rows : List (List (String × Json))) (title : Option String)
    (columns : List String) : Except MarkupError String :=
  if rows.isEmpty then printed console noRows
  else do
    let names := columnNames rows columns
    let lines ← TableText.lines console ⟨title, names, rows.map fun row => names.map (cellOf row)⟩
    return unlines lines

end Display
end BinaryDiff
