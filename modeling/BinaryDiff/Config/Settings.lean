import BinaryDiff.Config.Document
import BinaryDiff.Number.Lenient
import BinaryDiff.Number.Natural
import BinaryDiff.Text.Utf8

/-! # Settings

The settings are two sections with two fields each. A field that is not given has its default; one
that is given may be written in several ways, as a number, a truth value or a text, as long as it
stands for a value of the right kind within its bounds. All problems are reported, in the order of
the fields. -/

namespace BinaryDiff

/-- How a store is read. -/
structure ReaderSettings where
  /-- The number of bits in an address. -/
  addressWidth : Int
  /-- The seconds to wait for a locked database. -/
  timeout : Binary64
deriving DecidableEq, Repr

/-- How the log is written. -/
structure LogSettings where
  level : String
  json : Bool
deriving DecidableEq, Repr

/-- All settings. -/
structure Settings where
  reader : ReaderSettings
  logging : LogSettings
deriving DecidableEq, Repr

/-- Something that is wrong with a field or section. -/
structure Problem where
  /-- The kind of problem. -/
  kind : String
  /-- The keys that lead to the place. -/
  location : List String
  message : String
deriving DecidableEq, Repr

/-- What is wrong with a value, wherever it stands. -/
structure Flaw where
  kind : String
  message : String
deriving DecidableEq, Repr

namespace ReaderSettings

/-- The settings that apply when nothing is said. -/
def default : ReaderSettings := ⟨64, .ofInt 5⟩

/-- The least address width. -/
def leastWidth : Int := 8

/-- The greatest address width. -/
def greatestWidth : Int := 64

end ReaderSettings

namespace LogSettings

/-- The settings that apply when nothing is said. -/
def default : LogSettings := ⟨"INFO", false⟩

/-- The level that is logged from; being verbose overrides the setting. -/
def levelFor (verbose : Bool) (settings : LogSettings) : String :=
  if verbose then "DEBUG" else settings.level

end LogSettings

namespace Settings

/-- The settings that apply when nothing is said. -/
def default : Settings := ⟨.default, .default⟩

end Settings

namespace Coercion

/-- Whether an integer is among those of sixty-four bits. -/
def isMachineInt (n : Int) : Bool :=
  -(twoTo 63 : Int) ≤ n && n < (twoTo 63 : Int)

/-- The text that a scalar is or encodes; none for other scalars, and nothing legible for bytes
that are not UTF-8. -/
def legible : Scalar → Option (Option String)
  | .text text => some (some text)
  | .bytes bytes => some (Utf8.text? bytes)
  | _ => none

/-- The text of an integer is not one. -/
def notAnInteger : Flaw :=
  ⟨"int_parsing", "Input should be a valid integer, unable to parse string as an integer"⟩

/-- An integer is too long to be read. -/
def tooLongInteger : Flaw :=
  ⟨"int_parsing_size", "Unable to parse input string as an integer, exceeded maximum size"⟩

/-- What is wrong with the text of an integer. -/
def integerFlaw : IntegerFault → Flaw
  | .notOne => notAnInteger
  | .tooLong => tooLongInteger

/-- Whether an integer that a double is lies strictly between the ends of sixty-four bits. -/
def isWithinMachine (n : Int) : Bool :=
  -(twoTo 63 : Int) < n && n < (twoTo 63 : Int)

/-- The integer that a double is. -/
def integerOfReal (number : Binary64) : Except Flaw Int :=
  match number with
  | .notANumber | .infinity _ => .error ⟨"finite_number", "Input should be a finite number"⟩
  | number =>
    match number.toInt? with
    | none =>
      .error ⟨"int_from_float",
        "Input should be a valid integer, got a number with a fractional part"⟩
    | some n => if isWithinMachine n then .ok n else .error tooLongInteger

/-- The integer that a value stands for. -/
def integer : Document → Except Flaw Int
  | .scalar (.bool value) => .ok (if value then 1 else 0)
  | .scalar (.int value) => .ok value
  | .scalar (.real value) => integerOfReal value
  | .scalar scalar =>
    match legible scalar with
    | some (some text) => (Lenient.integer text.toList).mapError integerFlaw
    | some none => .error notAnInteger
    | none => .error ⟨"int_type", "Input should be a valid integer"⟩
  | _ => .error ⟨"int_type", "Input should be a valid integer"⟩

/-- The text of a number is not one. -/
def notANumberText : Flaw :=
  ⟨"float_parsing", "Input should be a valid number, unable to parse string as a number"⟩

/-- The value is of no kind that could be a number. -/
def notANumberKind : Flaw := ⟨"float_type", "Input should be a valid number"⟩

/-- The number that a value stands for. -/
def number : Document → Except Flaw Binary64
  | .scalar (.bool value) => .ok (.ofInt (if value then 1 else 0))
  | .scalar (.int value) =>
    match Binary64.ofInt value with
    | .infinity _ => .error notANumberKind
    | number => .ok number
  | .scalar (.real value) => .ok value
  | .scalar scalar =>
    match legible scalar with
    | some (some text) =>
      match Lenient.binary64? text.toList with
      | some number => .ok number
      | none => .error notANumberText
    | some none => .error notANumberText
    | none => .error notANumberKind
  | _ => .error notANumberKind

/-- The text that a value is. -/
def text : Document → Except Flaw String
  | .scalar scalar =>
    match legible scalar with
    | some (some text) => .ok text
    | some none =>
      .error ⟨"string_unicode",
        "Input should be a valid string, unable to parse raw data as a unicode string"⟩
    | none => .error ⟨"string_type", "Input should be a valid string"⟩
  | _ => .error ⟨"string_type", "Input should be a valid string"⟩

/-- The words that mean yes. -/
def yesWords : List String := ["1", "on", "t", "true", "y", "yes"]

/-- The words that mean no. -/
def noWords : List String := ["0", "off", "f", "false", "n", "no"]

/-- The value could be a truth value but is none. -/
def notATruthText : Flaw :=
  ⟨"bool_parsing", "Input should be a valid boolean, unable to interpret input"⟩

/-- The value is of no kind that could be a truth value. -/
def notATruthKind : Flaw := ⟨"bool_type", "Input should be a valid boolean"⟩

/-- The truth value in a text, whatever the case of its ASCII letters. -/
def truthOfText (text : String) : Except Flaw Bool :=
  let word := String.ofList (text.toList.map Char.toLower)
  if yesWords.contains word then .ok true
  else if noWords.contains word then .ok false
  else .error notATruthText

/-- The truth value that an integer stands for. -/
def truthOfInt (n : Int) : Except Flaw Bool :=
  if n = 0 then .ok false
  else if n = 1 then .ok true
  else if isMachineInt n then .error notATruthText
  else .error notATruthKind

/-- The truth value that a value stands for. -/
def truth : Document → Except Flaw Bool
  | .scalar (.bool value) => .ok value
  | .scalar (.int value) => truthOfInt value
  | .scalar (.real value) =>
    match value.toInt? with
    | some n => if isWithinMachine n then truthOfInt n else .error notATruthKind
    | none => .error notATruthKind
  | .scalar scalar =>
    match legible scalar with
    | some (some text) => truthOfText text
    | some none => .error notATruthText
    | none => .error notATruthKind
  | _ => .error notATruthKind

/-- An address width: an integer within its bounds. -/
def addressWidth (value : Document) : Except Flaw Int := do
  let width ← integer value
  if width < ReaderSettings.leastWidth then
    .error ⟨"greater_than_equal",
      s!"Input should be greater than or equal to {ReaderSettings.leastWidth}"⟩
  else if ReaderSettings.greatestWidth < width then
    .error ⟨"less_than_equal",
      s!"Input should be less than or equal to {ReaderSettings.greatestWidth}"⟩
  else return width

/-- A time to wait: a number above zero. -/
def timeout (value : Document) : Except Flaw Binary64 := do
  let seconds ← number value
  if seconds.isPositive then return seconds
  else .error ⟨"greater_than", "Input should be greater than 0"⟩

end Coercion

/-- A result together with everything that is wrong with it. -/
structure Checked (α : Type) where
  problems : List Problem
  value : α
deriving Repr

namespace Checked

/-- The result, if nothing is wrong with it. -/
def toExcept {α : Type} (checked : Checked α) : Except (List Problem) α :=
  if checked.problems.isEmpty then .ok checked.value else .error checked.problems

/-- A field of a section: its default if it is not given, else what its value stands for. -/
def field {α : Type} (location : List String) (members : List (Scalar × Document)) (name : String)
    (default : α) (read : Document → Except Flaw α) : Checked α :=
  match Document.member? members name with
  | none => ⟨[], default⟩
  | some value =>
    match read value with
    | .ok value => ⟨[], value⟩
    | .error flaw => ⟨[⟨flaw.kind, location ++ [name], flaw.message⟩], default⟩

/-- A section: its members if it is a mapping. -/
def part {α : Type} (location : List String) (model : String) (default : α)
    (read : List (Scalar × Document) → Checked α) : Document → Checked α
  | .mapping members => read members
  | _ =>
    ⟨[⟨"model_type", location,
      "Input should be a valid dictionary or instance of " ++ model⟩], default⟩

/-- A section that a member holds: its default if there is no such member. -/
def namedPart {α : Type} (members : List (Scalar × Document)) (name model : String) (default : α)
    (read : List String → List (Scalar × Document) → Checked α) : Checked α :=
  match Document.member? members name with
  | none => ⟨[], default⟩
  | some value => part [name] model default (read [name]) value

end Checked

namespace ReaderSettings

/-- The section on reading, from its members. -/
def read (location : List String) (members : List (Scalar × Document)) : Checked ReaderSettings :=
  let width := Checked.field location members "address_width" default.addressWidth
    Coercion.addressWidth
  let timeout := Checked.field location members "timeout_seconds" default.timeout Coercion.timeout
  ⟨width.problems ++ timeout.problems, ⟨width.value, timeout.value⟩⟩

end ReaderSettings

namespace LogSettings

/-- The section on logging, from its members. -/
def read (location : List String) (members : List (Scalar × Document)) : Checked LogSettings :=
  let level := Checked.field location members "level" default.level Coercion.text
  let json := Checked.field location members "json_output" default.json Coercion.truth
  ⟨level.problems ++ json.problems, ⟨level.value, json.value⟩⟩

end LogSettings

namespace Settings

/-- The settings from the members of a document. -/
def read (members : List (Scalar × Document)) : Checked Settings :=
  let reader := Checked.namedPart members "reader" "ReaderConfig" ReaderSettings.default
    ReaderSettings.read
  let logging := Checked.namedPart members "logging" "LoggingConfig" LogSettings.default
    LogSettings.read
  ⟨reader.problems ++ logging.problems, ⟨reader.value, logging.value⟩⟩

/-- The settings that a document stands for, or all that is wrong with it. -/
def ofDocument (document : Document) : Except (List Problem) Settings :=
  (Checked.part [] "VxsigConfig" .default read document).toExcept

end Settings
end BinaryDiff
