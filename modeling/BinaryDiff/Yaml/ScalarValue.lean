import BinaryDiff.Config.Document
import BinaryDiff.Number.Decimal
import BinaryDiff.Number.Natural
import BinaryDiff.Text.Digit
import BinaryDiff.Text.LetterCase
import BinaryDiff.Yaml.Spot
import BinaryDiff.Yaml.Tag

/-! # The values of scalars

What the text of a scalar stands for, given its type. A text that fits the pattern of its type has
a value, with few exceptions such as a day that the calendar does not have; one that was merely
labelled with the type need not have any. -/

namespace BinaryDiff
namespace Yaml
namespace ScalarValue

/-- The failure of a scalar to stand for a value. -/
def fail {α : Type} (fault : ScalarFault) : Except YamlFailure α := .error (.badScalar fault)

/-- A text without its underscores. -/
def dropUnderscores (text : List Char) : List Char := text.filter (· != '_')

/-- The sign of a number, true for a minus, and what follows it. -/
def splitSign : List Char → Bool × List Char
  | '-' :: rest => (true, rest)
  | '+' :: rest => (false, rest)
  | text => (false, text)

/-! ### Truth values -/

/-- The truth value of a word, whatever its case. -/
def bool (text : List Char) : Except YamlFailure Scalar :=
  let word := String.ofList (lower text)
  if ["yes", "true", "on"].contains word then .ok (.bool true)
  else if ["no", "false", "off"].contains word then .ok (.bool false)
  else fail (.unknownTruth word)

/-! ### Integers -/

/-- The value of a digit to some base, in any script. -/
def digitIn (base : Nat) (c : Char) : Option Nat :=
  match (decimalDigit c).or (Hex.valueOf c) with
  | some value => if value < base then some value else none
  | none => none

/-- The letter that marks a base in front of a number; not every base has one. -/
def baseLetter? (base : Nat) : Option Char :=
  if base = 2 then some 'b'
  else if base = 8 then some 'o'
  else if base = 16 then some 'x'
  else none

/-- A number without the mark of its base. -/
def dropBaseMark (base : Nat) : List Char → List Char
  | '0' :: letter :: rest =>
    if baseLetter? base == some letter.toLower then rest else '0' :: letter :: rest
  | text => text

/-- The number that digits to some base stand for. -/
def natural (base : Nat) (digits : List Char) : Option Nat :=
  if digits.isEmpty then none
  else digits.foldl (fun sum c => do return base * (← sum) + (← digitIn base c)) (some 0)

/-- The integer that a text stands for to some base. Decimal digits are counted before anything
after them is looked at. -/
def integer (base : Nat) (text : List Char) : Except YamlFailure Int :=
  let (negative, digits) := splitSign (trimBy isUnicodeSpace text)
  let count := (digits.takeWhile fun c => (digitIn base c).isSome).length
  if base = 10 ∧ ScalarFault.mostDigits < count then fail (.tooManyDigits count)
  else match natural base (dropBaseMark base digits) with
    | some n => .ok (if negative then -(n : Int) else n)
    | none => fail (.notAnInteger base (String.ofList text))

/-- The value of places to the base sixty, the last of them first. -/
def sixtieths : List Int → Int
  | [] => 0
  | place :: places => place + 60 * sixtieths places

/-- The integer of a scalar: binary, octal, hexadecimal, decimal or to the base sixty. -/
def int (text : List Char) : Except YamlFailure Scalar := do
  let text := dropUnderscores text
  if text.isEmpty then fail .noDigits
  let (negative, digits) := splitSign text
  let signed := fun n : Int => Scalar.int (if negative then -n else n)
  match digits with
  | [] => fail .noDigits
  | ['0'] => return .int 0
  | '0' :: 'b' :: rest => return signed (← integer 2 rest)
  | '0' :: 'x' :: rest => return signed (← integer 16 rest)
  | '0' :: _ => return signed (← integer 8 digits)
  | _ =>
    if digits.contains ':' then
      let places ← (piecesBy (· == ':') digits).mapM (integer 10)
      return signed (sixtieths places.reverse)
    else return signed (← integer 10 digits)

/-! ### Fractional numbers -/

/-- A text with its decimal digits, of whatever script, written in ASCII. -/
def plainDigits (text : List Char) : List Char :=
  text.map fun c =>
    match decimalDigit c with
    | some value => Hex.digit value
    | none => c

/-- The number that a text stands for. -/
def number (text : List Char) : Except YamlFailure Binary64 :=
  match Decimal.binary64? (plainDigits (trimBy isUnicodeSpace text)) with
  | some number => .ok number
  | none => fail (.notANumber (String.ofList text))

/-- The value of places to the base sixty, the last of them first, when the first counts `base`. A
base beyond all doubles is refused, whatever the place holds. -/
def sixtiethsFrom (base : Int) (sum : Binary64) : List Binary64 → Except YamlFailure Binary64
  | [] => .ok sum
  | place :: places =>
    match Binary64.ofInt base with
    | .finite s m => sixtiethsFrom (60 * base) (sum.add (place.mul (.finite s m))) places
    | _ => fail .placeTooHigh

/-- Whether a text is the name of what is not a number. -/
def isNanName (text : List Char) : Bool :=
  (splitSign (lower (dropUnderscores text))).2 == ".nan".toList

/-- The number of a scalar: decimal, to the base sixty, infinite or none. -/
def float (text : List Char) : Except YamlFailure Scalar := do
  let text := lower (dropUnderscores text)
  if text.isEmpty then fail .noDigits
  let (negative, digits) := splitSign text
  let signed := fun x : Binary64 => Scalar.real (if negative then x.neg else x)
  if digits == ".inf".toList then return signed (.infinity false)
  else if digits == ".nan".toList then return .real .notANumber
  else if digits.contains ':' then
    let places ← (piecesBy (· == ':') digits).mapM number
    return signed (← sixtiethsFrom 1 (.finite false 0) places.reverse)
  else return signed (← number digits)

/-! ### Binary data -/

/-- The value of a character in base sixty-four. -/
def base64Value (c : Char) : Option Nat :=
  if 'A' ≤ c ∧ c ≤ 'Z' then some (c.toNat - 65)
  else if 'a' ≤ c ∧ c ≤ 'z' then some (c.toNat - 71)
  else if c.isDigit then some (c.toNat + 4)
  else if c == '+' then some 62
  else if c == '/' then some 63
  else none

/-- The bytes of the characters of a text in base sixty-four. `place` counts the characters of the
current group of four, `left` holds the bits that no byte has taken yet, and `padding` counts the
padding so far; characters that have no meaning are passed over. -/
def base64 (place left padding : Nat) : List Char → Option (List UInt8)
  | [] => if place = 0 then some [] else none
  | c :: rest =>
    if c == '=' then
      if 2 ≤ place && 4 ≤ place + padding + 1 then some []
      else base64 place left (if 2 ≤ place then padding + 1 else padding) rest
    else match base64Value c with
      | none => base64 place left padding rest
      | some value =>
        if place = 0 then base64 1 value 0 rest
        else
          let bits := left * 64 + value
          let extra := twoTo (2 * (3 - place))
          (base64 ((place + 1) % 4) (bits % extra) 0 rest).map (UInt8.ofNat (bits / extra) :: ·)

/-- The bytes of a scalar. -/
def binary (text : List Char) : Except YamlFailure Scalar :=
  if text.all fun c => c.toNat < 0x80 then
    match base64 0 0 0 text with
    | some bytes => .ok (.bytes bytes)
    | none => .error .malformed
  else .error .malformed

/-! ### Days and moments -/

/-- The texts that are read as days or moments. -/
def stampPattern : Pattern :=
  .both (Implicit.day Implicit.digitOrTwo)
    (.optional (.both Implicit.timeMark Implicit.timeOfDay))

/-- The number that a text begins with, the number of its digits, and what follows it. -/
def leadingNumber (text : List Char) : Nat × Nat × List Char :=
  let digits := text.takeWhile Char.isDigit
  (digits.foldl (fun sum c => 10 * sum + (c.toNat - 48)) 0, digits.length,
    text.dropWhile Char.isDigit)

/-- The number that comes next after other characters, and what follows it. -/
def nextNumber (text : List Char) : Nat × List Char :=
  let (n, _, rest) := leadingNumber (text.dropWhile fun c => !c.isDigit)
  (n, rest)

/-- Whether a year has a leap day. -/
def isLeapYear (year : Nat) : Bool :=
  year % 4 == 0 && (year % 100 != 0 || year % 400 == 0)

/-- The number of days of a month. -/
def monthDays (year month : Nat) : Nat :=
  if month = 2 then if isLeapYear year then 29 else 28
  else if month = 4 ∨ month = 6 ∨ month = 9 ∨ month = 11 then 30
  else 31

/-- Makes sure that the calendar has a day. -/
def checkDay (year month day : Nat) : Except YamlFailure Unit :=
  if year = 0 then fail .noYear
  else if month < 1 ∨ 12 < month then fail .noMonth
  else if day < 1 ∨ monthDays year month < day then fail .noDay
  else .ok ()

/-- Makes sure that a day has a time. -/
def checkTime (hour minute second : Nat) : Except YamlFailure Unit :=
  if 23 < hour then fail .noHour
  else if 59 < minute then fail .noMinute
  else if 59 < second then fail .noSecond
  else .ok ()

/-- The seconds by which a zone is ahead of universal time, if one is named; it must be less than a
day away. -/
def zone (text : List Char) : Except YamlFailure (Option Int) :=
  match text.dropWhile fun c => c == ' ' || c == '\t' with
  | c :: rest =>
    if c == '+' || c == '-' then
      let (hours, rest) := nextNumber rest
      let (minutes, _) := nextNumber rest
      let span : Int := (hours * 60 + minutes) * 60
      let signed := if c == '-' then -span else span
      if span < 86400 then .ok (some signed)
      else fail (.farZone signed)
    else .ok (some 0)
  | [] => .ok none

/-- The fraction of a second that may come, in microseconds, and what follows it. -/
def fraction : List Char → Nat × List Char
  | '.' :: text =>
    let (digits, rest) := (text.takeWhile Char.isDigit, text.dropWhile Char.isDigit)
    let micros := (digits ++ List.replicate 6 '0').take 6
    (micros.foldl (fun sum c => 10 * sum + (c.toNat - 48)) 0, rest)
  | text => (0, text)

/-- The day or moment of a scalar. -/
def timestamp (text : List Char) : Except YamlFailure Scalar := do
  let text := Implicit.dropLineEnd text
  if !stampPattern.fits text then fail .noMoment
  let (year, rest) := nextNumber text
  let (month, rest) := nextNumber rest
  let (day, rest) := nextNumber rest
  if rest.isEmpty then
    checkDay year month day
    return .date year month day
  else
    let (hour, rest) := nextNumber rest
    let (minute, rest) := nextNumber rest
    let (second, rest) := nextNumber rest
    let (micros, rest) := fraction rest
    let zone ← zone rest
    checkDay year month day
    checkTime hour minute second
    return .moment year month day (((hour * 60 + minute) * 60 + second) * 1000000 + micros)
      zone

end ScalarValue
end Yaml
end BinaryDiff
