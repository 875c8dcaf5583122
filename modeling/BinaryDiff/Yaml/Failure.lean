import BinaryDiff.Text.Quoted

/-! # Why a document cannot be read

A document breaks the rules of the language, or one of its scalars does not stand for a value of
the type that it is given. -/

namespace BinaryDiff
namespace Yaml

/-- Why a scalar does not stand for a value of its type. -/
inductive ScalarFault
  /-- A word means neither yes nor no. -/
  | unknownTruth (word : String)
  /-- A number has nothing to be read. -/
  | noDigits
  | notAnInteger (base : Nat) (text : String)
  | tooManyDigits (count : Nat)
  | notANumber (text : String)
  /-- The places of a number to the base sixty count more than any double. -/
  | placeTooHigh
  /-- A numeric escape is so large that it is not even compared with the last character. -/
  | escapeTooLarge
  /-- A numeric escape lies beyond the last character. -/
  | noCharacter
  /-- There is no year zero. -/
  | noYear
  | noMonth
  | noDay
  | noHour
  | noMinute
  | noSecond
  /-- A zone is a day or more away from universal time, by so many seconds. -/
  | farZone (seconds : Int)
  /-- A text has not the form of a day or moment. -/
  | noMoment
  /-- A mapping is to be a day or moment. -/
  | momentOfMapping
  /-- The text of a scalar is to be taken from the scalar itself. -/
  | endless
deriving DecidableEq, Repr

namespace ScalarFault

/-- The greatest number of decimal digits that are converted. -/
def mostDigits : Nat := 4300

/-- The greatest number of characters of a text that a complaint shows. -/
def longestShown : Nat := 200

/-- A span of time as it is shown in a complaint. -/
def shownSpan (seconds : Int) : String :=
  let days := seconds / 86400
  let rest := seconds % 86400
  let parts := (if days = 0 then [] else [s!"days={days}"])
    ++ (if rest = 0 then [] else [s!"seconds={rest}"])
  "datetime.timedelta(" ++ (if parts.isEmpty then "0" else ", ".intercalate parts) ++ ")"

/-- The name of the kind of fault. -/
def name : ScalarFault → String
  | unknownTruth _ => "KeyError"
  | noDigits => "IndexError"
  | placeTooHigh | escapeTooLarge => "OverflowError"
  | noMoment => "AttributeError"
  | momentOfMapping => "TypeError"
  | endless => "RecursionError"
  | _ => "ValueError"

/-- The fault in words. -/
def message : ScalarFault → String
  | unknownTruth word => quoted word
  | noDigits => "string index out of range"
  | notAnInteger base text =>
    let shown := String.ofList ((quoted text).toList.take longestShown)
    s!"invalid literal for int() with base {base}: {shown}"
  | tooManyDigits count =>
    s!"Exceeds the limit ({mostDigits} digits) for integer string conversion: "
      ++ s!"value has {count} digits; use sys.set_int_max_str_digits() to increase the limit"
  | notANumber text => s!"could not convert string to float: {quoted text}"
  | placeTooHigh => "int too large to convert to float"
  | escapeTooLarge => "Python int too large to convert to C int"
  | noCharacter => "chr() arg not in range(0x110000)"
  | noYear => "year 0 is out of range"
  | noMonth => "month must be in 1..12"
  | noDay => "day is out of range for month"
  | noHour => "hour must be in 0..23"
  | noMinute => "minute must be in 0..59"
  | noSecond => "second must be in 0..59"
  | farZone seconds =>
    "offset must be a timedelta strictly between "
      ++ "-timedelta(hours=24) and timedelta(hours=24), not " ++ shownSpan seconds ++ "."
  | noMoment => "'NoneType' object has no attribute 'groupdict'"
  | momentOfMapping => "expected string or bytes-like object, got 'list'"
  | endless => "maximum recursion depth exceeded"

end ScalarFault

/-- Why a document cannot be read. -/
inductive YamlFailure
  /-- It breaks the rules of the language. -/
  | malformed
  /-- A scalar does not stand for a value of its type. -/
  | badScalar (fault : ScalarFault)
deriving DecidableEq, Repr

end Yaml
end BinaryDiff
