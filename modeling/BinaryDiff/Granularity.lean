import BinaryDiff.Text.Blank
import BinaryDiff.Text.LetterCase

/-! # Granularities

Matches are kept at three granularities, each in a table of its own. Their order here is the order
in which a parse delivers them. -/

namespace BinaryDiff

/-- What the two addresses of a match are addresses of. -/
inductive Granularity
  | function
  | basicBlock
  | instruction
deriving DecidableEq, Repr

namespace Granularity

/-- All granularities, in the order of delivery. -/
def all : List Granularity := [function, basicBlock, instruction]

/-- The table that holds the matches. -/
def table : Granularity → String
  | function => "function"
  | basicBlock => "basicblock"
  | instruction => "instruction"

/-- The name of the granularity as a constant. -/
def constant : Granularity → String
  | function => "FUNCTION"
  | basicBlock => "BASIC_BLOCK"
  | instruction => "INSTRUCTION"

/-- The name under which users know the granularity. -/
def label : Granularity → String
  | function => "function"
  | basicBlock => "basic-block"
  | instruction => "instruction"

/-- A label in the form in which labels are compared: without blanks around it, in lower case, with
hyphens for underscores. -/
def normalize (label : String) : String :=
  String.ofList ((lower (strip label.toList)).map fun c => if c == '_' then '-' else c)

/-- The granularity that a label or the name of its table stands for. -/
def ofLabel? (label : String) : Option Granularity :=
  let normal := normalize label
  all.find? fun granularity => granularity.label == normal || granularity.table == normal

/-- The complaint about a label that stands for no granularity. -/
def unknownLabel (label : String) : String :=
  "Unknown granularity '" ++ label ++ "'. Available: "
    ++ ", ".intercalate (all.map Granularity.label)

end Granularity
end BinaryDiff
