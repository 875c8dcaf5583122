import BinaryDiff.Json.Value
import BinaryDiff.Text.Hex

/-! # Writing JSON

A value is written either on one line or with every member and item on a line of its own, two
spaces further in than its container. Characters are written as themselves, except the quotation
mark, the backslash and the control characters. -/

namespace BinaryDiff
namespace Json

/-- A character inside a string. -/
def escapedChar (c : Char) : List Char :=
  if c == '"' then ['\\', '"']
  else if c == '\\' then ['\\', '\\']
  else if c == '\n' then ['\\', 'n']
  else if c == '\r' then ['\\', 'r']
  else if c == '\t' then ['\\', 't']
  else if c.toNat == 0x08 then ['\\', 'b']
  else if c.toNat == 0x0C then ['\\', 'f']
  else if c.toNat < 0x20 then ['\\', 'u'] ++ Hex.padded 4 c.toNat
  else [c]

/-- A string with its quotation marks. -/
def printString (text : List Char) : List Char :=
  '"' :: text.flatMap escapedChar ++ ['"']

/-- An integer. -/
def printInt (n : Int) : List Char :=
  if n < 0 then '-' :: Nat.toDigits 10 n.natAbs else Nat.toDigits 10 n.natAbs

/-- A fractional number; the values that JSON has no notation for are written by name. -/
def printReal : Binary64 → List Char
  | .notANumber => "NaN".toList
  | .infinity negative => if negative then "-Infinity".toList else "Infinity".toList
  | number => number.text.toList

/-- How the parts of a container are set apart. -/
inductive Layout
  /-- Everything on one line. -/
  | line
  /-- Every part on a line of its own. -/
  | lines
deriving DecidableEq, Repr

/-- What stands in front of a part at a depth. -/
def Layout.break : Layout → Nat → List Char
  | line, _ => []
  | lines, depth => '\n' :: List.replicate (2 * depth) ' '

/-- What stands between a part and the next. -/
def Layout.comma : Layout → Nat → List Char
  | line, _ => [',', ' ']
  | lines, depth => ',' :: Layout.break lines depth

mutual

/-- A value at a depth. -/
def print (layout : Layout) (depth : Nat) : Json → List Char
  | null => "null".toList
  | bool true => "true".toList
  | bool false => "false".toList
  | int n => printInt n
  | real number => printReal number
  | str text => printString text.toList
  | arr [] => ['[', ']']
  | arr (item :: items) =>
    '[' :: layout.break (depth + 1) ++ print layout (depth + 1) item
      ++ printItems layout (depth + 1) items ++ layout.break depth ++ [']']
  | obj [] => [Char.ofNat 0x7B, Char.ofNat 0x7D]
  | obj ((key, value) :: members) =>
    Char.ofNat 0x7B :: layout.break (depth + 1) ++ printString key.toList ++ [':', ' ']
      ++ print layout (depth + 1) value ++ printMembers layout (depth + 1) members
      ++ layout.break depth ++ [Char.ofNat 0x7D]

/-- The items of an array after the first. -/
def printItems (layout : Layout) (depth : Nat) : List Json → List Char
  | [] => []
  | item :: items =>
    layout.comma depth ++ print layout depth item ++ printItems layout depth items

/-- The members of an object after the first. -/
def printMembers (layout : Layout) (depth : Nat) : List (String × Json) → List Char
  | [] => []
  | (key, value) :: members =>
    layout.comma depth ++ printString key.toList ++ [':', ' '] ++ print layout depth value
      ++ printMembers layout depth members

end

/-- A value on one line. -/
def compact (value : Json) : String :=
  String.ofList (print .line 0 value)

/-- A value over several lines. -/
def pretty (value : Json) : String :=
  String.ofList (print .lines 0 value)

end Json
end BinaryDiff
