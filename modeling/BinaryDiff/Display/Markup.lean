import BinaryDiff.Display.Action
import BinaryDiff.Display.PictureCode
import BinaryDiff.Display.Style
import BinaryDiff.Display.StyledText

/-! # Markup

Titles and cells of tables are written in a markup language, in which a word between brackets opens
a style and one with a slash in front closes it. A tag shows nothing itself. A backslash in front
of a tag makes it an ordinary text, in which codes stand for pictures. Closing a style that is not
open is an error, and so is an action that cannot be understood. -/

namespace BinaryDiff

/-- What keeps a markup text from being shown. -/
inductive MarkupError
  /-- A tag closes a style that is not open. -/
  | notOpen (position : Nat) (inside : List Char)
  /-- A tag closes the last style where none is open. -/
  | nothingOpen (position : Nat)
  /-- The action of a tag cannot be understood. -/
  | badAction (call : Action.BadCall)
  /-- A component of a colour is no number. -/
  | badColour (fault : ColourFault)
deriving DecidableEq, Repr

namespace MarkupError

/-- The name of the kind of failure. -/
def name : MarkupError → String
  | badColour _ => "ValueError"
  | _ => "MarkupError"

/-- What is wrong, in words. -/
def message : MarkupError → String
  | notOpen position inside =>
    s!"closing tag '[{String.ofList inside}]' at position {position} doesn't match any open tag"
  | nothingOpen position => s!"closing tag '[/]' at position {position} has nothing to close"
  | badAction call => call.message
  | badColour fault => fault.message

end MarkupError

namespace Markup

/-- Whether a tag can begin with a character. -/
def startsTag (c : Char) : Bool :=
  ('a' ≤ c && c ≤ 'z') || c == '#' || c == '/' || c == '@'

/-- The inside of the tag that a text begins with, and what follows it. -/
def tag? : List Char → Option (List Char × List Char)
  | '[' :: c :: rest =>
    if startsTag c then
      match rest.span fun d => d != ']' && d != '[' with
      | (inside, ']' :: after) => some (c :: inside, after)
      | _ => none
    else none
  | _ => none

/-- A part of a markup text, with the tags at their places. -/
inductive Part
  | text (chars : List Char)
  | tag (position : Nat) (inside : List Char)
deriving DecidableEq, Repr

/-- Puts a character in front of parts, joining it to a text. -/
def consChar (c : Char) : List Part → List Part
  | .text chars :: parts => .text (c :: chars) :: parts
  | parts => .text [c] :: parts

/-- The parts of a text. Of the backslashes in front of a tag every second one stays; an odd number
of them makes the tag a text. Texts that the markup sets apart stay apart. -/
def parts (position : Nat) : Nat → List Char → List Part
  | 0, _ => []
  | _ + 1, [] => []
  | fuel + 1, c :: rest =>
    let backslashes := ((c :: rest).takeWhile (· == '\\')).length
    match tag? ((c :: rest).drop backslashes) with
    | some (inside, after) =>
      let next := position + backslashes + inside.length + 2
      let lead := if backslashes < 2 then [] else
        [Part.text (List.replicate (backslashes / 2) '\\')]
      if backslashes % 2 = 1 then
        .text [] :: lead ++ .text ('[' :: inside ++ [']']) :: .text [] :: parts next fuel after
      else
        .text [] :: lead ++ .tag (position + backslashes) inside :: parts next fuel after
    | none => consChar c (parts (position + 1) fuel rest)

/-- A text with brackets for escaped brackets. -/
def dropEscapes : List Char → List Char
  | '\\' :: '[' :: rest => '[' :: dropEscapes rest
  | c :: rest => c :: dropEscapes rest
  | [] => []

/-- The control characters that are not shown. -/
def isDropped (c : Char) : Bool :=
  let code := c.toNat
  code == 7 || code == 8 || code == 11 || code == 12 || code == 13

/-- A tag that was opened. -/
structure OpenTag where
  /-- The place in the shown text where it was opened. -/
  start : Nat
  /-- The normal name of its style. -/
  name : List Char
  /-- What is said after its equals sign. -/
  parameters : List Char
deriving DecidableEq, Repr

/-- The name of a tag, and what is said after its equals sign. -/
def splitTag (inside : List Char) : List Char × List Char :=
  (inside.takeWhile (· != '='), (inside.dropWhile (· != '=')).drop 1)

/-- The description of the style of a tag. The name of an action describes none. -/
def OpenTag.description (tag : OpenTag) : List Char := tag.name ++ ' ' :: tag.parameters

/-- The normal name of a style. -/
def styleName (name : List Char) : Except MarkupError (List Char) :=
  (Style.normalize name).mapError .badColour

/-- What a text between tags shows. -/
def shownText (chars : List Char) : List Char :=
  (PictureCode.replace (dropEscapes chars)).filter fun c => !isDropped c

/-- What has been read of a markup text. -/
structure Reading where
  shown : StyledText
  /-- The open tags, the last of them first. -/
  opened : List OpenTag
deriving DecidableEq, Repr

namespace Reading

/-- The stretch from the place where a tag was opened up to the end. -/
def stretchOf (reading : Reading) (tag : OpenTag) : Stretch :=
  ⟨tag.start, reading.shown.chars.length, tag.description⟩

/-- Closes an open tag; if it has an action, that is looked at. -/
def close (console : Console) (reading : Reading) (tag : OpenTag) : Except MarkupError Reading :=
  let closed : Reading :=
    ⟨{ reading.shown with stretches := reading.stretchOf tag :: reading.shown.stretches },
      reading.opened.erase tag⟩
  if tag.name.head? == some '@' && !tag.parameters.isEmpty then
    match Action.check console tag.parameters with
    | .ok () => .ok closed
    | .error call => .error (.badAction call)
  else .ok closed

/-- Carries out a tag. -/
def carryOut (console : Console) (reading : Reading) (position : Nat) (inside : List Char) :
    Except MarkupError Reading := do
  match splitTag inside with
  | ('/' :: name, _) =>
    if (strip name).isEmpty then
      match reading.opened with
      | tag :: _ => reading.close console tag
      | [] => throw (.nothingOpen position)
    else
      let name ← styleName (strip name)
      match reading.opened.find? (·.name == name) with
      | some tag => reading.close console tag
      | none => throw (.notOpen position inside)
  | (name, parameters) =>
    let tag : OpenTag := ⟨reading.shown.chars.length, ← styleName name, parameters⟩
    return { reading with opened := tag :: reading.opened }

/-- Reads a part. -/
def step (console : Console) (reading : Reading) : Part → Except MarkupError Reading
  | .text chars =>
    .ok { reading with shown := reading.shown.append ⟨shownText chars, []⟩ }
  | .tag position inside => reading.carryOut console position inside

/-- What is shown in the end, when all tags that are still open reach the end of the text. Of two
stretches that begin at one place, that of the tag that was closed last comes first. -/
def finish (reading : Reading) : StyledText :=
  let stretches := reading.opened.reverse.map reading.stretchOf ++ reading.shown.stretches
  { reading.shown with
    stretches := stretches.mergeSort fun stretch other => stretch.start ≤ other.start }

end Reading

/-- The text that a markup text shows. -/
def shown (console : Console) (text : String) : Except MarkupError StyledText := do
  let chars := text.toList
  let reading ← (parts 0 (chars.length + 1) chars).foldlM (Reading.step console) ⟨⟨[], []⟩, []⟩
  return reading.finish

/-- Puts backslashes in front of the tags of a text, and doubles those that are there. -/
def escapeTags : Nat → List Char → List Char
  | 0, text => text
  | _ + 1, [] => []
  | fuel + 1, c :: rest =>
    let backslashes := ((c :: rest).takeWhile (· == '\\')).length
    match tag? ((c :: rest).drop backslashes) with
    | some (inside, after) =>
      List.replicate (2 * backslashes + 1) '\\' ++ '[' :: inside ++ ']' :: escapeTags fuel after
    | none => c :: escapeTags fuel rest

/-- A text whose markup shows what was written: its tags are escaped, and so is a single backslash
at its end, which could be taken for the escape of what comes after. -/
def escape (text : String) : String :=
  let escaped := escapeTags (text.toList.length + 1) text.toList
  match escaped.reverse with
  | '\\' :: '\\' :: _ => String.ofList escaped
  | '\\' :: _ => String.ofList (escaped ++ ['\\'])
  | _ => String.ofList escaped

end Markup
end BinaryDiff
