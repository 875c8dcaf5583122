import BinaryDiff.Json.Value
import BinaryDiff.Number.Decimal
import BinaryDiff.Text.Hex

/-! # Reading JSON

A recursive-descent reader. Every step that goes into a value spends one unit of fuel; a text is
read with as many units as it has characters, and one more, which no text exceeds. -/

namespace BinaryDiff
namespace Json

/-- Whether a character may stand between tokens. -/
def isJsonSpace (c : Char) : Bool :=
  c == ' ' || c == '\n' || c == '\r' || c == '\t'

/-- The text after white space. -/
def skipSpace (text : List Char) : List Char :=
  text.dropWhile isJsonSpace

/-- The rest of a text after a given beginning. -/
def after? : List Char → List Char → Option (List Char)
  | [], text => some text
  | c :: word, d :: text => if c == d then after? word text else none
  | _ :: _, [] => none

/-- The four digits of a code unit. -/
def codeUnit? : List Char → Option (Nat × List Char)
  | a :: b :: c :: d :: rest => do return (← Hex.ofDigits [a, b, c, d], rest)
  | _ => none

/-- The character that a surrogate pair stands for. -/
def pairedChar (high low : Nat) : Char :=
  Char.ofNat (0x10000 + (high - 0xD800) * 0x400 + (low - 0xDC00))

/-- The character of an escape that names it by one letter. -/
def letterEscape? (c : Char) : Option Char :=
  if c == '"' || c == '\\' || c == '/' then some c
  else if c == 'n' then some '\n'
  else if c == 'r' then some '\r'
  else if c == 't' then some '\t'
  else if c == 'b' then some (Char.ofNat 0x08)
  else if c == 'f' then some (Char.ofNat 0x0C)
  else none

/-- The character of an escape by number, and what follows it. A surrogate without its partner is
shown as the replacement character. -/
def numericEscape? (text : List Char) : Option (Char × List Char) := do
  let (code, rest) ← codeUnit? text
  if 0xD800 ≤ code ∧ code < 0xDC00 then
    match rest with
    | '\\' :: 'u' :: tail =>
      let (low, tail) ← codeUnit? tail
      if 0xDC00 ≤ low ∧ low < 0xE000 then return (pairedChar code low, tail)
      else return (Char.ofNat 0xFFFD, rest)
    | _ => return (Char.ofNat 0xFFFD, rest)
  else if 0xDC00 ≤ code ∧ code < 0xE000 then return (Char.ofNat 0xFFFD, rest)
  else return (Char.ofNat code, rest)

/-- The characters of a string after its opening mark, and what follows its closing mark. -/
def readString : Nat → List Char → Option (List Char × List Char)
  | 0, _ => none
  | _ + 1, [] => none
  | fuel + 1, c :: rest =>
    if c == '"' then some ([], rest)
    else if c == '\\' then
      match rest with
      | 'u' :: digits => do
        let (c, rest) ← numericEscape? digits
        let (chars, rest) ← readString fuel rest
        return (c :: chars, rest)
      | letter :: rest => do
        let c ← letterEscape? letter
        let (chars, rest) ← readString fuel rest
        return (c :: chars, rest)
      | [] => none
    else if c.toNat < 0x20 then none
    else do
      let (chars, rest) ← readString fuel rest
      return (c :: chars, rest)

/-- Whether a character can belong to a number. -/
def isNumeric (c : Char) : Bool :=
  c.isDigit || c == '-' || c == '+' || c == '.' || c == 'e' || c == 'E'

/-- The number that a run of numeric characters stands for: an integer if it has digits only. -/
def number? (text : List Char) : Option Json :=
  let (negative, digits) := match text with
    | '-' :: rest => (true, rest)
    | text => (false, text)
  if digits.isEmpty then none
  else if digits.all Char.isDigit then
    let n := Decimal.ofDigits (digits.map fun c => c.toNat - 48)
    some (int (if negative then -(n : Int) else n))
  else if (digits.head?).any Char.isDigit then (Decimal.unsigned? negative digits).map real
  else none

/-- A literal or a number. -/
def readScalar (text : List Char) : Option (Json × List Char) :=
  if let some rest := after? "null".toList text then some (null, rest)
  else if let some rest := after? "true".toList text then some (bool true, rest)
  else if let some rest := after? "false".toList text then some (bool false, rest)
  else if let some rest := after? "NaN".toList text then some (real .notANumber, rest)
  else if let some rest := after? "Infinity".toList text then some (real (.infinity false), rest)
  else if let some rest := after? "-Infinity".toList text then some (real (.infinity true), rest)
  else do return (← number? (text.takeWhile isNumeric), text.dropWhile isNumeric)

mutual

/-- A value and what follows it. -/
def readValue : Nat → List Char → Option (Json × List Char)
  | 0, _ => none
  | fuel + 1, text =>
    match skipSpace text with
    | [] => none
    | c :: rest =>
      if c == '"' then do
        let (chars, rest) ← readString (rest.length + 1) rest
        return (str (String.ofList chars), rest)
      else if c == '[' then
        match skipSpace rest with
        | ']' :: rest => some (arr [], rest)
        | rest => do
          let (items, rest) ← readItems fuel rest
          return (arr items, rest)
      else if c.toNat == 0x7B then
        match skipSpace rest with
        | [] => none
        | d :: tail =>
          if d.toNat == 0x7D then some (obj [], tail)
          else do
            let (members, rest) ← readMembers fuel (d :: tail)
            return (ofMembers members, rest)
      else readScalar (c :: rest)

/-- The items of an array up to its closing bracket. -/
def readItems : Nat → List Char → Option (List Json × List Char)
  | 0, _ => none
  | fuel + 1, text => do
    let (item, rest) ← readValue fuel text
    match skipSpace rest with
    | ',' :: rest =>
      let (items, rest) ← readItems fuel rest
      return (item :: items, rest)
    | ']' :: rest => return ([item], rest)
    | _ => none

/-- The members of an object up to its closing brace. -/
def readMembers : Nat → List Char → Option (List (String × Json) × List Char)
  | 0, _ => none
  | fuel + 1, text =>
    match skipSpace text with
    | '"' :: rest => do
      let (key, rest) ← readString (rest.length + 1) rest
      match skipSpace rest with
      | ':' :: rest =>
        let (value, rest) ← readValue fuel rest
        match skipSpace rest with
        | [] => none
        | c :: rest =>
          if c == ',' then
            let (members, rest) ← readMembers fuel rest
            return ((String.ofList key, value) :: members, rest)
          else if c.toNat == 0x7D then return ([(String.ofList key, value)], rest)
          else none
      | _ => none
    | _ => none

end

/-- The value that a text stands for. -/
def parse (text : String) : Option Json :=
  let chars := text.toList
  match readValue (chars.length + 1) chars with
  | some (value, rest) => if (skipSpace rest).isEmpty then some value else none
  | none => none

end Json
end BinaryDiff
