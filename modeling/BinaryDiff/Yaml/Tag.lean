import BinaryDiff.Yaml.Pattern

/-! # Tags

Every node has a tag that says what type of value it stands for. A scalar that is written plainly
and without a tag gets the one whose pattern it fits; the patterns are those of YAML 1.1. A scalar
that fits none, and every quoted one, is a text. -/

namespace BinaryDiff
namespace Yaml

/-- The type of a node. -/
inductive Tag
  | null
  | bool
  | int
  | float
  | binary
  | timestamp
  | omap
  | pairs
  | set
  | str
  | seq
  | map
  /-- The key of a mapping that takes over the members of others. -/
  | merge
  /-- The key of a mapping that can stand for one of its values. -/
  | value
  /-- A type that nothing is known about. -/
  | unknown
deriving DecidableEq, Repr

namespace Tag

/-- What the names of the common types begin with. -/
def commonStart : List Char := "tag:yaml.org,2002:".toList

/-- The types that have names. -/
def named : List (String × Tag) :=
  [("null", null), ("bool", bool), ("int", int), ("float", float), ("binary", binary),
   ("timestamp", timestamp), ("omap", omap), ("pairs", pairs), ("set", set), ("str", str),
   ("seq", seq), ("map", map), ("merge", merge), ("value", value)]

/-- The type that a tag written out in full stands for. -/
def ofText (text : List Char) : Tag :=
  match named.find? fun entry => commonStart ++ entry.1.toList == text with
  | some (_, tag) => tag
  | none => unknown

end Tag

namespace Implicit

open Pattern

/-- A decimal digit. -/
def digit : Pattern := one Char.isDigit

/-- A decimal digit or an underscore. -/
def loose : Pattern := one fun c => c.isDigit || c == '_'

/-- An optional sign. -/
def sign : Pattern := optional (oneOf "+-")

/-- An exponent, whose sign must be there. -/
def exponent : Pattern := sequence [oneOf "eE", oneOf "+-", some digit]

/-- A further place of a number to the base sixty. -/
def sixtieth : Pattern := sequence [word [':'], optional (oneOf "012345"), digit]

/-- The texts of truth values. -/
def boolText : Pattern := words
  ["yes", "Yes", "YES", "no", "No", "NO", "true", "True", "TRUE", "false", "False", "FALSE",
   "on", "On", "ON", "off", "Off", "OFF"]

/-- The texts of fractional numbers. -/
def floatText : Pattern := anyOf
  [sequence [sign, digit, many loose, word ['.'], many loose, optional exponent],
   sequence [word ['.'], digit, many loose, optional exponent],
   sequence [sign, digit, many loose, some sixtieth, word ['.'], many loose],
   sequence [sign, word ['.'], words ["inf", "Inf", "INF"]],
   sequence [word ['.'], words ["nan", "NaN", "NAN"]]]

/-- A digit other than zero, and then any digits and underscores. -/
def natural : Pattern := sequence [oneOf "123456789", many loose]

/-- The texts of integers. -/
def intText : Pattern := anyOf
  [sequence [sign, word ['0', 'b'], some (oneOf "01_")],
   sequence [sign, word ['0'], some (oneOf "01234567_")],
   sequence [sign, either (word ['0']) natural],
   sequence [sign, word ['0', 'x'], some (oneOf "0123456789abcdefABCDEF_")],
   sequence [sign, natural, some sixtieth]]

/-- One or two digits. -/
def digitOrTwo : Pattern := sequence [digit, optional digit]

/-- Two digits. -/
def twoDigits : Pattern := sequence [digit, digit]

/-- A day, with months and days of the given form. -/
def day (part : Pattern) : Pattern :=
  sequence [digit, digit, digit, digit, word ['-'], part, word ['-'], part]

/-- A difference from universal time. -/
def zone : Pattern :=
  either (word ['Z'])
    (sequence [oneOf "+-", digitOrTwo, optional (sequence [word [':'], twoDigits])])

/-- Spaces and tabs. -/
def white : Pattern := many (oneOf " \t")

/-- A time of the day, perhaps with a fraction of a second and a zone. -/
def timeOfDay : Pattern := sequence
  [digitOrTwo, word [':'], twoDigits, word [':'], twoDigits,
   optional (sequence [word ['.'], many digit]), optional (sequence [white, zone])]

/-- What stands between a day and a time. -/
def timeMark : Pattern := either (oneOf "Tt") (some (oneOf " \t"))

/-- The texts of days and moments. -/
def timestampText : Pattern :=
  either (day twoDigits) (sequence [day digitOrTwo, timeMark, timeOfDay])

/-- The texts that mean nothing. -/
def nullText : Pattern := words ["~", "null", "Null", "NULL", ""]

/-- The types that plain scalars can have without saying so, each with its pattern. -/
def patterns : List (Tag × Pattern) :=
  [(.bool, boolText), (.float, floatText), (.int, intText), (.merge, word ['<', '<']),
   (.null, nullText), (.timestamp, timestampText), (.value, word ['='])]

/-- A text without the line end that it may have at its end, which the patterns overlook. -/
def dropLineEnd (text : List Char) : List Char :=
  match text.getLast? with
  | Option.some '\n' => if text.length = 1 then text else text.dropLast
  | _ => text

/-- The type of a plain scalar. -/
def resolve (text : List Char) : Tag :=
  match patterns.find? fun entry => entry.2.fits (dropLineEnd text) with
  | Option.some (tag, _) => tag
  | none => .str

end Implicit
end Yaml
end BinaryDiff
