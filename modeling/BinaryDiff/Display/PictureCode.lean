import BinaryDiff.Text.Blank
import BinaryDiff.Text.LetterCase
import BinaryDiff.Text.PictureTable

/-! # Codes for pictures

A name between colons stands for a picture. The name may be followed by a dash and a word that says
whether the picture is to be shown as one or like text. A code whose name is unknown stays as it is,
and its last colon begins no other code. -/

namespace BinaryDiff

/-- A code for a picture. -/
structure PictureCode where
  name : List Char
  /-- The selector that the code asks for. -/
  selector : List Char
  /-- The code as it was written. -/
  written : List Char
deriving DecidableEq, Repr

namespace PictureCode

/-- What can end a code, with the selectors that are asked for. -/
def endings : List (List Char × List Char) :=
  [("-emoji:".toList, [Char.ofNat 0xFE0F]), ("-text:".toList, [Char.ofNat 0xFE0E]), ([':'], [])]

/-- The code that is written between a colon and the first possible end, and what follows it. `name`
holds the characters of the name so far, the last of them first. -/
def readFrom (name : List Char) : List Char → Option (PictureCode × List Char)
  | [] => none
  | c :: rest =>
    match endings.find? fun ending => ending.1.isPrefixOf (c :: rest) with
    | some (ending, selector) =>
      some (⟨name.reverse, selector, ':' :: name.reverse ++ ending⟩,
        (c :: rest).drop ending.length)
    | none => if isBlank c then none else readFrom (c :: name) rest

/-- What a code stands for. -/
def shown (code : PictureCode) : List Char :=
  match Picture.named? (String.ofList (lower code.name)) with
  | some picture => picture ++ code.selector
  | none => code.written

/-- A text with pictures for their codes; `fuel` bounds the number of steps. -/
def replaceWithin : Nat → List Char → List Char
  | 0, text => text
  | _ + 1, [] => []
  | fuel + 1, c :: rest =>
    if c == ':' then
      match readFrom [] rest with
      | some (code, rest) => code.shown ++ replaceWithin fuel rest
      | none => c :: replaceWithin fuel rest
    else c :: replaceWithin fuel rest

/-- A text with pictures for their codes. -/
def replace (text : List Char) : List Char := replaceWithin text.length text

end PictureCode
end BinaryDiff
