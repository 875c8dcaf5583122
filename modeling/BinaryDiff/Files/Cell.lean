import BinaryDiff.ForeignError
import BinaryDiff.Number.Binary64
import BinaryDiff.Text.Utf8

/-! # Cells

A cell of a table holds nothing, an integer of 64 bits with a sign, a double, a text or a blob. A
text is stored as bytes and need not be UTF-8; it is decoded when its row is fetched. -/

namespace BinaryDiff

/-- A stored cell. -/
inductive Cell
  | null
  | integer (value : Int64)
  | real (value : Binary64)
  | text (bytes : List UInt8)
  | blob (bytes : List UInt8)
deriving DecidableEq, Repr

/-- A fetched cell. -/
inductive Value
  | null
  | integer (value : Int)
  | real (value : Binary64)
  | text (value : String)
  | blob (bytes : List UInt8)
deriving DecidableEq, Repr

/-- The first places of a message, as many as the database keeps. -/
def messagePlaces : Nat := 198

/-- The complaint about a text that is not UTF-8: its bytes up to the first zero byte, one
character for each, those beyond ASCII as replacement characters, and the whole cut off where the
database cuts its messages. -/
def undecodableText (column : String) (bytes : List UInt8) : String :=
  let shown := bytes.takeWhile (· != 0)
  let lead := Utf8.encode s!"Could not decode to UTF-8 column '{column}' with text '"
  let message := (lead ++ shown ++ Utf8.encode "'").take messagePlaces
  String.ofList (message.map fun byte =>
    if byte < 0x80 then Char.ofNat byte.toNat else Char.ofNat 0xFFFD)

namespace Cell

/-- The cell that holds a text. -/
def ofText (text : String) : Cell := .text (Utf8.encode text)

/-- The cell as it is fetched from a column. -/
def fetch (column : String) : Cell → Except ForeignError Value
  | null => .ok .null
  | integer value => .ok (.integer value.toInt)
  | real value => .ok (.real value)
  | text bytes =>
    match Utf8.text? bytes with
    | some decoded => .ok (.text decoded)
    | none => .error (.operational (undecodableText column bytes))
  | blob bytes => .ok (.blob bytes)

/-- The place of a cell's kind in the sort order: nothing, numbers, texts, blobs. -/
def rank : Cell → Nat
  | null => 0
  | integer _ | real _ => 1
  | text _ => 2
  | blob _ => 3

/-- The place of a number on the line of doubles, which integers share. -/
def position : Cell → Int
  | integer value => value.toInt * Binary64.unitsInOne
  | real value => value.position
  | _ => 0

/-- The bytes of a text or blob. -/
def bytes : Cell → List UInt8
  | text bytes | blob bytes => bytes
  | _ => []

/-- Whether one list of bytes comes before or equals another, byte by byte. -/
def bytesUpTo : List UInt8 → List UInt8 → Bool
  | [], _ => true
  | _ :: _, [] => false
  | a :: as, b :: bs => a < b || (a == b && bytesUpTo as bs)

/-- Whether a cell comes before or beside another in the sort order. -/
def upTo (a b : Cell) : Bool :=
  a.rank < b.rank || (a.rank == b.rank &&
    if a.rank == 1 then a.position ≤ b.position else bytesUpTo a.bytes b.bytes)

end Cell

namespace Value

/-- The name of the value's type in messages. -/
def typeName : Value → String
  | null => "NULL"
  | integer _ => "int"
  | real _ => "float"
  | text _ => "str"
  | blob _ => "bytes"

end Value
end BinaryDiff
