import BinaryDiff.Files.Database
import BinaryDiff.Json.Value
import BinaryDiff.Number.Decimal
import BinaryDiff.Text.Digit
import BinaryDiff.Text.Hex

/-! # Dumps of databases

A dump is a JSON object that has a member for each table, with the names of its columns and its rows
in storage order. A cell that JSON has no notation for is an object with one member, which names its
type: `int`, `real`, `blob`, or `rawtext` for a text given by its bytes. -/

namespace BinaryDiff
namespace Dump

/-- The integer that a value stands for, be it a number or its text. -/
def integer : Json → Int
  | .str text => (readInteger text).getD 0
  | .int value => value
  | _ => 0

/-- The cell that holds a double; there is none that is not a number. -/
def realCell : Binary64 → Cell
  | .notANumber => .null
  | number => .real number

/-- The bytes that a text of hexadecimal digits stands for. -/
def hexBytes (text : String) : List UInt8 := (Hex.bytes text.toList).getD []

/-- The cell of a named type. -/
def typedCell (type : String) (value : Json) : Cell :=
  match type, value with
  | "int", value => .integer (.ofInt (integer value))
  | "real", .str text => ((Decimal.binary64? text.toList).map realCell).getD .null
  | "blob", .str text => .blob (hexBytes text)
  | "rawtext", .str text => .text (hexBytes text)
  | _, _ => .null

/-- A cell. -/
def cell : Json → Cell
  | .int value => .integer (.ofInt value)
  | .bool value => .integer (if value then 1 else 0)
  | .real number => realCell number
  | .str text => .ofText text
  | .obj [(type, value)] => typedCell type value
  | _ => .null

/-- The items of a member. -/
def itemsOf (json : Json) (key : String) : List Json :=
  ((json.member? key).map Json.items).getD []

/-- A table, given its name. -/
def table (name : String) (json : Json) : Table :=
  ⟨name, (itemsOf json "columns").filterMap Json.str?,
    (itemsOf json "rows").map fun row => row.items.map cell⟩

/-- The database that a dump describes. -/
def database (json : Json) : Database :=
  ⟨json.members.map fun entry => table entry.1 entry.2⟩

end Dump
end BinaryDiff
