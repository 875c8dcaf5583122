import BinaryDiff.Text.Hex
import BinaryDiff.Yaml.Failure

/-! # Places in a document

A reader of YAML moves through the text of a document from the left to the right and keeps count
of lines and columns, since indentation carries meaning and a key has to be on one line with its
colon. Looking ahead beyond the end shows the zero character, which no document contains. -/

namespace BinaryDiff
namespace Yaml

/-- The character that is seen beyond the end. -/
def endMark : Char := '\x00'

/-- Whether a character ends a line. -/
def isBreak (c : Char) : Bool :=
  c == '\n' || c == '\r' || c == '\u0085' || c == '\u2028' || c == '\u2029'

/-- Whether a line or the document ends. -/
def isLineEnd (c : Char) : Bool :=
  c == endMark || isBreak c

/-- Whether a space or a line end comes. -/
def isSpaceOrEnd (c : Char) : Bool :=
  c == ' ' || isLineEnd c

/-- Whether white space or a line end comes. -/
def isGapOrEnd (c : Char) : Bool :=
  c == '\t' || isSpaceOrEnd c

/-- Whether a character can be in a name: a letter or digit of ASCII, a hyphen or an underscore. -/
def isNameChar (c : Char) : Bool :=
  c.isAlphanum || c == '-' || c == '_'

/-- A place in a document. -/
structure Spot where
  /-- What follows. -/
  rest : List Char
  /-- The number of characters before. -/
  index : Nat
  line : Nat
  column : Nat
deriving Repr

namespace Spot

/-- The beginning of a document. -/
def start (text : List Char) : Spot := ⟨text, 0, 0, 0⟩

/-- The next character. -/
def peek (spot : Spot) : Char := spot.rest.headD endMark

/-- The character a number of places ahead. -/
def ahead (spot : Spot) (places : Nat) : Char := spot.rest.getD places endMark

/-- The place after the next character. A carriage return with a line feed is one line end, and a
byte order mark takes no column. -/
def step (spot : Spot) : Spot :=
  match spot.rest with
  | [] => spot
  | c :: rest =>
    if isBreak c && !(c == '\r' && rest.headD endMark == '\n') then
      ⟨rest, spot.index + 1, spot.line + 1, 0⟩
    else if c == '\uFEFF' then ⟨rest, spot.index + 1, spot.line, spot.column⟩
    else ⟨rest, spot.index + 1, spot.line, spot.column + 1⟩

/-- The place a number of characters further on. -/
def forward (spot : Spot) : Nat → Spot
  | 0 => spot
  | count + 1 => spot.step.forward count

/-- The run of characters of a class, and the place after it. -/
def run (spot : Spot) (inside : Char → Bool) : List Char × Spot :=
  let text := spot.rest.takeWhile inside
  (text, spot.forward text.length)

/-- The place after a run of characters of a class. -/
def skip (spot : Spot) (inside : Char → Bool) : Spot :=
  (spot.run inside).2

/-- The place after spaces. -/
def skipSpaces (spot : Spot) : Spot := spot.skip (· == ' ')

/-- The place after a comment, if one begins here. -/
def skipComment (spot : Spot) : Spot :=
  if spot.peek == '#' then spot.skip fun c => !isLineEnd c else spot

/-- A line end as it counts in a text, if one comes, and the place after it. -/
def lineBreak (spot : Spot) : List Char × Spot :=
  let c := spot.peek
  if c == '\r' && spot.ahead 1 == '\n' then (['\n'], spot.forward 2)
  else if c == '\r' || c == '\n' || c == '\u0085' then (['\n'], spot.step)
  else if c == '\u2028' || c == '\u2029' then ([c], spot.step)
  else ([], spot)

/-- Whether three equal characters and then white space or a line end come. -/
def hasMarker (spot : Spot) (c : Char) : Bool :=
  spot.peek == c && spot.ahead 1 == c && spot.ahead 2 == c && isGapOrEnd (spot.ahead 3)

/-- Whether a line begins with a marker between documents, here. -/
def atSeparator (spot : Spot) : Bool :=
  spot.hasMarker '-' || spot.hasMarker '.'

/-- The rest of a line that may hold nothing but a comment, passed over. -/
def finishLine (spot : Spot) : Except YamlFailure Spot :=
  let spot := spot.skipSpaces.skipComment
  if isLineEnd spot.peek then .ok spot.lineBreak.2 else .error .malformed

end Spot
end Yaml
end BinaryDiff
