import BinaryDiff.Text.Hex
import BinaryDiff.Text.Pieces

/-! # Sets of code points

The character classes beyond ASCII are long lists of ranges. They are written down as text, a range
such as `C0-D6` or a single code point such as `AA` between blanks, and read into a list of ranges.
A character belongs to the class when one of the ranges contains its code point. -/

namespace BinaryDiff

/-- The code points from `first` to `last`, both included. -/
structure CodeRange where
  first : Nat
  last : Nat
deriving DecidableEq, Repr

namespace CodeRange

/-- Whether a code point lies in the range. -/
def contains (range : CodeRange) (code : Nat) : Bool :=
  range.first ≤ code && code ≤ range.last

/-- The range that one entry of a list describes: `AA`, or `C0-D6`. -/
def ofEntry (entry : List Char) : Option CodeRange :=
  match entry.span (· != '-') with
  | (first, []) => (Hex.ofDigits first).map fun code => ⟨code, code⟩
  | (first, _ :: last) => do return ⟨← Hex.ofDigits first, ← Hex.ofDigits last⟩

/-- The entries of a text, which blanks and line ends separate. -/
def entries (text : List Char) : List (List Char) :=
  (piecesBy (fun c => c == ' ' || c == '\n') text).filter fun entry => !entry.isEmpty

/-- The ranges that a text describes. -/
def list (text : String) : List CodeRange :=
  (entries text.toList).filterMap ofEntry

end CodeRange

/-- Whether a character lies in one of the ranges. -/
def inRanges (ranges : List CodeRange) (c : Char) : Bool :=
  ranges.any fun range => range.contains c.toNat

end BinaryDiff
