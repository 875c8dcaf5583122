import BinaryDiff.Text.Blank
import BinaryDiff.Text.CodeRange
import BinaryDiff.Text.Digit
import BinaryDiff.Text.LetterCase

/-! # Styles

A style is described by words: traits of type that are wanted or, after `not`, unwanted, a
colour, another one after `on` for the background, and an address after `link`. Of two words on one
matter the later counts. A style has one normal description, by which two of them are compared,
whatever the order and the spelling of the words. Words without a meaning are only no style, but a
component of a colour that is no number is an error. -/

namespace BinaryDiff

/-- Why a component of a colour is no number. -/
inductive ColourFault
  /-- It is empty. -/
  | emptyComponent
  /-- It has more digits than a number may have. -/
  | longComponent (digits : Nat)
deriving DecidableEq, Repr

/-- What is wrong with a component, in words. -/
def ColourFault.message : ColourFault → String
  | emptyComponent => "invalid literal for int() with base 10: ''"
  | longComponent digits =>
    s!"Exceeds the limit (4300 digits) for integer string conversion: value has {digits} digits; "
      ++ "use sys.set_int_max_str_digits() to increase the limit"

/-- Why words do not describe a style. -/
inductive StyleFault
  /-- A word has no meaning where it stands. -/
  | meaningless
  /-- A component of a colour is no number. -/
  | badColour (fault : ColourFault)
deriving DecidableEq, Repr

namespace Colour

/-- The colours that have names. -/
def names : List (List Char) := CodeRange.entries (
  "default
black red green yellow blue magenta cyan white bright_black bright_red bright_green bright_yellow
bright_blue bright_magenta bright_cyan bright_white grey0 gray0 navy_blue dark_blue blue3 blue1
dark_green deep_sky_blue4 dodger_blue3 dodger_blue2 green4 spring_green4 turquoise4 deep_sky_blue3
dodger_blue1 green3 spring_green3 dark_cyan light_sea_green deep_sky_blue2 deep_sky_blue1
spring_green2 cyan3 dark_turquoise turquoise2 green1 spring_green1 medium_spring_green cyan2 cyan1
dark_red deep_pink4 purple4 purple3 blue_violet orange4 grey37 gray37 medium_purple4 slate_blue3
royal_blue1 chartreuse4 dark_sea_green4 pale_turquoise4 steel_blue steel_blue3 cornflower_blue
chartreuse3 cadet_blue sky_blue3 steel_blue1 pale_green3 sea_green3 aquamarine3 medium_turquoise
chartreuse2 sea_green2 sea_green1 aquamarine1 dark_slate_gray2 dark_magenta dark_violet purple
light_pink4 plum4 medium_purple3 slate_blue1 yellow4 wheat4 grey53 gray53 light_slate_grey
light_slate_gray medium_purple light_slate_blue dark_olive_green3 dark_sea_green light_sky_blue3
sky_blue2 dark_sea_green3 dark_slate_gray3 sky_blue1 chartreuse1 light_green pale_green1
dark_slate_gray1 red3 medium_violet_red magenta3 dark_orange3 indian_red hot_pink3 medium_orchid3
medium_orchid medium_purple2 dark_goldenrod light_salmon3 rosy_brown grey63 gray63 medium_purple1
gold3 dark_khaki navajo_white3 grey69 gray69 light_steel_blue3 light_steel_blue yellow3
dark_sea_green2 light_cyan3 light_sky_blue1 green_yellow dark_olive_green2 dark_sea_green1
pale_turquoise1 deep_pink3 magenta2 hot_pink2 orchid medium_orchid1 orange3 light_pink3 pink3
plum3 violet light_goldenrod3 tan misty_rose3 thistle3 plum2 khaki3 light_goldenrod2 light_yellow3
grey84 gray84 light_steel_blue1 yellow2 dark_olive_green1 honeydew2 light_cyan1 red1 deep_pink2
deep_pink1 magenta1 orange_red1 indian_red1 hot_pink dark_orange salmon1 light_coral
pale_violet_red1 orchid2 orchid1 orange1 sandy_brown light_salmon1 light_pink1 pink1 plum1 gold1
navajo_white1 misty_rose1 thistle1 yellow1 light_goldenrod1 khaki1 wheat1 cornsilk1 grey100
gray100 grey3 gray3 grey7 gray7 grey11 gray11 grey15 gray15 grey19 gray19 grey23 gray23 grey27
gray27 grey30 gray30 grey35 gray35 grey39 gray39 grey42 gray42 grey46 gray46 grey50 gray50 grey54
gray54 grey58 gray58 grey62 gray62 grey66 gray66 grey70 gray70 grey74 gray74 grey78 gray78 grey82
gray82 grey85 gray85 grey89 gray89 grey93 gray93".toList)

/-- Whether a character stands in a colour by number: a digit of any script or a comma. -/
def isNumeric (c : Char) : Bool := c == ',' || (decimalDigit c).isSome

/-- The number that digits of any script stand for. -/
def numberOf (digits : List Char) : Nat :=
  digits.foldl (fun sum c => 10 * sum + (decimalDigit c).getD 0) 0

/-- The greatest value of a component, and the greatest number of a colour. -/
def greatest : Nat := 255

/-- The greatest number of digits of a component. -/
def mostDigits : Nat := 4300

/-- What stands between a beginning and a closing bracket in a word. -/
def within? (start word : List Char) : Option (List Char) :=
  if start.isPrefixOf word && word.getLast? == some ')' then
    some ((word.drop start.length).dropLast)
  else none

/-- Whether a word is a number sign with six hexadecimal digits. -/
def isHexadecimal (word : List Char) : Bool :=
  match word with
  | '#' :: digits => digits.length == 6 && (Hex.ofDigits digits).isSome
  | _ => false

/-- Whether the inside of a word gives a colour by its number. -/
def isNumbered (inside : List Char) : Bool :=
  1 ≤ inside.length && inside.length ≤ 3 && inside.all Char.isDigit && numberOf inside ≤ greatest

/-- Why digits are no component of a colour. -/
def componentFault? (digits : List Char) : Option ColourFault :=
  if digits.isEmpty then some .emptyComponent
  else if mostDigits < digits.length then some (.longComponent digits.length)
  else none

/-- Makes sure that the inside of a word gives a colour by its components. -/
def checkComponents (inside : List Char) : Except StyleFault Unit :=
  let components := piecesBy (· == ',') inside
  if inside.isEmpty || !inside.all isNumeric || components.length != 3 then .error .meaningless
  else
    match components.findSome? componentFault? with
    | some fault => .error (.badColour fault)
    | none =>
      if components.all fun component => numberOf component ≤ greatest then .ok ()
      else .error .meaningless

/-- Makes sure that a word in lower case is a colour. -/
def check (word : List Char) : Except StyleFault Unit :=
  if names.contains word || isHexadecimal word then .ok ()
  else
    match within? "color(".toList word, within? "rgb(".toList word with
    | some inside, _ => if isNumbered inside then .ok () else .error .meaningless
    | none, some inside => checkComponents inside
    | none, none => .error .meaningless

end Colour

/-- A style. -/
structure Style where
  /-- The traits of type that were decided on, the latest decision first. -/
  decisions : List (String × Bool)
  colour : Option (List Char)
  background : Option (List Char)
  link : Option (List Char)
deriving DecidableEq, Repr

namespace Style

/-- The style that says nothing. -/
def plain : Style := ⟨[], none, none, none⟩

/-- The traits of type with their short names, in the order of a normal description. -/
def traits : List (String × List String) :=
  [("bold", ["b"]), ("dim", ["d"]), ("italic", ["i"]), ("underline", ["u"]), ("blink", []),
   ("blink2", []), ("reverse", ["r"]), ("conceal", ["c"]), ("strike", ["s"]),
   ("underline2", ["uu"]), ("frame", []), ("encircle", []), ("overline", ["o"])]

/-- The trait that a word names. -/
def trait? (word : List Char) : Option String :=
  let word := String.ofList word
  (traits.find? fun entry => entry.1 == word || entry.2.contains word).map Prod.fst

/-- Decides on a trait. -/
def settle (style : Style) (trait : String) (wanted : Bool) : Style :=
  { style with decisions := (trait, wanted) :: style.decisions }

/-- A style with what further words say. -/
def read (style : Style) : List (List Char) → Except StyleFault Style
  | [] => .ok style
  | written :: words =>
    let word := lower written
    if word == "on".toList then
      match words with
      | [] => .error .meaningless
      | colour :: words => do
        Colour.check (lower colour)
        read { style with background := some (lower colour) } words
    else if word == "not".toList then
      match words with
      | [] => .error .meaningless
      | unwanted :: words =>
        match trait? unwanted with
        | some trait => read (style.settle trait false) words
        | none => .error .meaningless
    else if word == "link".toList then
      match words with
      | [] => .error .meaningless
      | link :: words => read { style with link := some link } words
    else
      match trait? word with
      | some trait => read (style.settle trait true) words
      | none => do
        Colour.check word
        read { style with colour := some word } words

/-- The words of a description. -/
def words (description : List Char) : List (List Char) :=
  (piecesBy isBlank description).filter fun word => !word.isEmpty

/-- The style that a description stands for. -/
def ofDescription (description : List Char) : Except StyleFault Style :=
  if strip description == "none".toList then .ok plain else read plain (words description)

/-- What the style says about a trait. -/
def traitWords (style : Style) (trait : String) : List (List Char) :=
  match style.decisions.find? (·.1 == trait) with
  | some (_, true) => [trait.toList]
  | some (_, false) => ["not".toList, trait.toList]
  | none => []

/-- The words of the normal description, which is not empty. -/
def normalWords (style : Style) : List (List Char) :=
  let words := traits.flatMap (fun entry => style.traitWords entry.1)
    ++ style.colour.toList
    ++ (style.background.map fun colour => ["on".toList, colour]).getD []
    ++ (style.link.map fun link => ["link".toList, link]).getD []
  if words.isEmpty then ["none".toList] else words

/-- The normal description of a style. -/
def normal (style : Style) : List Char := (style.normalWords.intersperse [' ']).flatten

/-- The normal form of a description. One that describes no style is only written in lower case. -/
def normalize (description : List Char) : Except ColourFault (List Char) :=
  match ofDescription description with
  | .ok style => .ok style.normal
  | .error .meaningless => .ok (lower (strip description))
  | .error (.badColour fault) => .error fault

/-- The fault in the colours of a description, if there is one. -/
def fault? (description : List Char) : Option ColourFault :=
  match ofDescription description with
  | .error (.badColour fault) => some fault
  | _ => none

end Style
end BinaryDiff
