import BinaryDiff.Text.Cluster

/-! # Styled text

A text in which stretches have styles. The styles themselves are not shown; but where one begins or
ends, a text falls into runs, and the cells of a laid out line are counted run by run. A joiner or a
selector has no effect beyond its run. -/

namespace BinaryDiff

/-- A stretch of a text, from one place up to another. -/
structure Stretch where
  start : Nat
  stop : Nat
  /-- The description of its style. -/
  style : List Char
deriving DecidableEq, Repr

/-- A text with the stretches that have styles. -/
structure StyledText where
  chars : List Char
  stretches : List Stretch
deriving DecidableEq, Repr

namespace StyledText

/-- The part of a text between two places. Stretches are cut with it, and those of which nothing is
left are given up. -/
def part (start stop : Nat) (text : StyledText) : StyledText :=
  ⟨(text.chars.drop start).take (stop - start), text.stretches.filterMap fun stretch =>
    let inside : Stretch :=
      ⟨max start stretch.start - start, min stop stretch.stop - start, stretch.style⟩
    if inside.start < inside.stop then some inside else none⟩

/-- The parts of a text between places that are counted from its beginning, from a place on. -/
def partsFrom (start : Nat) (text : StyledText) : List Nat → List StyledText
  | [] => [text.part start text.chars.length]
  | place :: places => text.part start place :: partsFrom place text places

/-- A text cut at some places; without any it stays as it is. -/
def cutAt (text : StyledText) (places : List Nat) : List StyledText :=
  if places.isEmpty then [text] else partsFrom 0 text places

/-- The beginning of a text. A stretch that begins after it is given up. -/
def take (length : Nat) (text : StyledText) : StyledText :=
  ⟨text.chars.take length, (text.stretches.filter (·.start < length)).map fun stretch =>
    { stretch with stop := min length stretch.stop }⟩

/-- A text with other characters in its place. A stretch that begins after them is given up. -/
def withChars (chars : List Char) (text : StyledText) : StyledText :=
  if chars.length < text.chars.length then
    { take chars.length text with chars := chars }
  else { text with chars := chars }

/-- A text with spaces in front of it, over which no stretch goes. -/
def indent (count : Nat) (text : StyledText) : StyledText :=
  ⟨List.replicate count ' ' ++ text.chars, text.stretches.map fun stretch =>
    ⟨count + stretch.start, count + stretch.stop, stretch.style⟩⟩

/-- A text with spaces at its end, over which no stretch goes on. -/
def pad (count : Nat) (text : StyledText) : StyledText :=
  { text with chars := text.chars ++ List.replicate count ' ' }

/-- A text with spaces at its end, over which the stretches that reach the end go on. -/
def extend (count : Nat) (text : StyledText) : StyledText :=
  ⟨text.chars ++ List.replicate count ' ', text.stretches.map fun stretch =>
    if text.chars.length ≤ stretch.stop then { stretch with stop := stretch.stop + count }
    else stretch⟩

/-- A text after another. -/
def append (text other : StyledText) : StyledText :=
  ⟨text.chars ++ other.chars, text.stretches ++ other.stretches.map fun stretch =>
    ⟨text.chars.length + stretch.start, text.chars.length + stretch.stop, stretch.style⟩⟩

/-- Texts one after the other. -/
def join (texts : List StyledText) : StyledText := texts.foldl append ⟨[], []⟩

/-- The runs of a text. -/
def runs (text : StyledText) : List (List Char) :=
  let bounds := text.stretches.flatMap fun stretch => [stretch.start, stretch.stop]
  let places := (bounds.filter (· < text.chars.length)).mergeSort (· ≤ ·)
  ((⟨text.chars, []⟩ : StyledText).cutAt places).map chars

end StyledText
end BinaryDiff
