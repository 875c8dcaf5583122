import BinaryDiff.Display.StyledText
import BinaryDiff.Number.Natural
import BinaryDiff.Text.Blank
import BinaryDiff.Text.Pieces

/-! # Fitting text into a width

A text is laid out line by line. Tabs reach to the next multiple of eight cells. A line that is too
long is broken in front of a word that does not fit, and a word that is too long for any line is cut
anywhere. -/

namespace BinaryDiff
namespace Wrap

/-- Whether a character ends a line where lines are counted. -/
def endsLine (c : Char) : Bool :=
  let code := c.toNat
  (0x0A ≤ code && code ≤ 0x0D) || (0x1C ≤ code && code ≤ 0x1E) || code == 0x85 || code == 0x2028
    || code == 0x2029

/-- The number of cells of the widest line of a text. -/
def widest (text : List Char) : Nat :=
  (piecesBy endsLine text).foldl (fun most line => max most (cells line)) 0

/-- The distance between tab stops. -/
def tabStop : Nat := 8

/-- The places in a text after the characters of a class. -/
def placesAfter (isBreak : Char → Bool) (place : Nat) : List Char → List Nat
  | [] => []
  | c :: rest =>
    if isBreak c then (place + 1) :: placesAfter isBreak (place + 1) rest
    else placesAfter isBreak (place + 1) rest

/-- The parts of a line with spaces for the tabs that end them, from a column on. Every tab takes at
least one cell. -/
def fillTabs (column : Nat) : List StyledText → List StyledText
  | [] => []
  | part :: parts =>
    if part.chars.getLast? == some '\t' then
      let spaced := { part with chars := part.chars.dropLast ++ [' '] }
      let reached := column + cells spaced.chars
      let more := (tabStop - reached % tabStop) % tabStop
      spaced.extend more :: fillTabs (reached + more) parts
    else part :: fillTabs column parts

/-- A line with spaces for its tabs. -/
def expandTabs (line : StyledText) : StyledText :=
  match placesAfter (· == '\t') 0 line.chars with
  | [] => line
  | places => StyledText.join (fillTabs 0 (line.cutAt places))

/-- The first word of a line with the blanks around it, and what follows it. There is none in a line
of blanks. -/
def word? (line : List Char) : Option (List Char × List Char) :=
  let start := line.takeWhile isBlank
  let rest := line.dropWhile isBlank
  let word := rest.takeWhile fun c => !isBlank c
  let rest := rest.dropWhile fun c => !isBlank c
  if word.isEmpty then none
  else some (start ++ word ++ rest.takeWhile isBlank, rest.dropWhile isBlank)

/-- The words of a line with the blanks around them. -/
def words : Nat → List Char → List (List Char)
  | 0, _ => []
  | fuel + 1, line =>
    match word? line with
    | some (word, rest) => word :: words fuel rest
    | none => []

/-- A text without the blanks at its end. -/
def trimBlanks (text : List Char) : List Char := trimEnd isBlank text

/-- Clusters gathered into pieces that fit into a width; `used` cells of the first piece are
taken. -/
def chopClusters (width used : Nat) : List Cluster → List (List Char)
  | [] => [[]]
  | cluster :: rest =>
    if width < used + cluster.width then
      [] :: extendHead cluster.chars (chopClusters width cluster.width rest)
    else extendHead cluster.chars (chopClusters width (used + cluster.width) rest)

/-- A word cut into pieces that fit into a width. -/
def chop (width : Nat) (word : List Char) : List (List Char) :=
  chopClusters width 0 (Cluster.list word)

/-- The places at which the pieces of a word begin. -/
def pieceStarts (start : Nat) : List (List Char) → List Nat
  | [] => []
  | piece :: pieces =>
    (if start = 0 then [] else [start]) ++ pieceStarts (start + piece.length) pieces

/-- The places at which a line is broken, given its words from a place on and the number of cells
that are used on the current line. -/
def breaks (width : Nat) (start used : Nat) : List (List Char) → List Nat
  | [] => []
  | word :: others =>
    let next := start + word.length
    let length := cells (trimBlanks word)
    if length + used ≤ width then breaks width next (used + cells word) others
    else if width < length then
      let pieces := chop width word
      pieceStarts start pieces ++ breaks width next (cells (pieces.getLast?.getD [])) others
    else if used = 0 ∨ start = 0 then breaks width next used others
    else start :: breaks width next (cells word) others

/-- A line without those blanks at its end that go beyond a width. -/
def dropExcess (width : Nat) (line : StyledText) : StyledText :=
  let length := line.chars.length
  let excess := min (length - (trimBlanks line.chars).length) (length - width)
  if excess = 0 then line else line.take (length - excess)

/-- The clusters that fit into a width; half of a wide one is shown as a space. -/
def cropClusters (width : Nat) : List Cluster → List Char
  | [] => []
  | cluster :: rest =>
    if width = 0 then []
    else if cluster.width ≤ width then cluster.chars ++ cropClusters (width - cluster.width) rest
    else [' ']

/-- The part of a line that fits into a width. -/
def crop (width : Nat) (line : List Char) : List Char :=
  if cells line ≤ width then line else cropClusters width (Cluster.list line)

/-- A line cut to a width as a whole. -/
def cut (width : Nat) (line : StyledText) : StyledText := line.withChars (crop width line.chars)

/-- A line cut or filled up to a width as a whole. -/
def fitted (width : Nat) (line : StyledText) : StyledText :=
  if width < cells line.chars then cut width line else line.pad (width - cells line.chars)

/-- A line without the blanks at its end in the middle of a width; an odd space goes to the
right. -/
def center (width : Nat) (line : StyledText) : StyledText :=
  let trimmed := line.withChars (crop width (trimBlanks line.chars))
  let indented := trimmed.indent ((width - cells trimmed.chars) / 2)
  cut width (indented.pad (width - cells indented.chars))

/-- The runs that fit into a width. -/
def cropRuns (width : Nat) : List (List Char) → List Char
  | [] => []
  | run :: runs =>
    if cells run < width then run ++ cropRuns (width - cells run) runs else crop width run

/-- Runs cut or filled up to a width. -/
def fillRuns (width : Nat) (runs : List (List Char)) : List Char :=
  let length := total (runs.map cells)
  if length ≤ width then runs.flatten ++ List.replicate (width - length) ' '
  else cropRuns width runs

/-- A line of runs cut to a width. -/
def clip (width : Nat) (line : StyledText) : List Char :=
  if total (line.runs.map cells) ≤ width then line.chars else cropRuns width line.runs

/-- A line cut or filled up to a width, first as a whole and then by its runs. -/
def fill (width : Nat) (line : StyledText) : List Char :=
  fillRuns width (fitted width line).runs

/-- The lines of a text as it was written. -/
def paragraphs (text : StyledText) : List StyledText :=
  match placesAfter (· == '\n') 0 text.chars with
  | [] => [text]
  | places =>
    (text.cutAt places).map fun line =>
      if line.chars.getLast? == some '\n' then line.part 0 (line.chars.length - 1) else line

/-- The lines into which a text is broken for a width; there are none where there is no width.
Blanks at the end of a line may still go beyond it. -/
def broken (width : Nat) (text : StyledText) : List StyledText :=
  if width = 0 then []
  else (paragraphs text).flatMap fun line =>
    let line := expandTabs line
    let places := breaks width 0 0 (words (line.chars.length + 1) line.chars)
    (line.cutAt places).map (dropExcess width)

end Wrap
end BinaryDiff
