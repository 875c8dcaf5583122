import BinaryDiff.Number.Decimal
import BinaryDiff.Text.Blank

/-! # Numbers written freely

Settings and options may be given as texts. A text that JSON takes for an integer is one at once;
any other is cleaned first: blanks around it, a plus sign, zeros in front, a fraction of nothing but
zeros, and single underscores are dropped. For a fractional number only underscores are. -/

namespace BinaryDiff

/-- Why a text is not an integer. -/
inductive IntegerFault
  | notOne
  /-- Its digits are too many. -/
  | tooLong
deriving DecidableEq, Repr

namespace Lenient

/-- The greatest number of characters of an integer. -/
def longestInteger : Nat := 4300

/-- The integer that JSON reads in a text: digits without a needless zero in front, after a minus
sign perhaps. Their number is looked at before what follows them. -/
def plainInteger (text : List Char) : Except IntegerFault Int :=
  let (negative, unsigned) := match text with
    | '-' :: rest => (true, rest)
    | text => (false, text)
  let (digits, rest) := Decimal.digitRun unsigned
  match digits with
  | [] | 0 :: _ :: _ => .error .notOne
  | digits =>
    if longestInteger < digits.length + (if negative then 1 else 0) then .error .tooLong
    else if rest.isEmpty then
      .ok (if negative then -(Decimal.ofDigits digits : Int) else Decimal.ofDigits digits)
    else .error .notOne

/-- What follows zeros in front of a number, which underscores may stand between: the number itself,
a sign, or the last zero together with a point. -/
def afterZeros (last : Char) : List Char → Option (List Char)
  | [] => some [last]
  | c :: rest =>
    if c == '0' || c == '_' then afterZeros c rest
    else if c.isDigit || c == '-' then some (c :: rest)
    else if c == '.' then some (last :: c :: rest)
    else none

/-- A number without the zeros in front of it; none if the text begins like no number. -/
def dropZeros : List Char → Option (List Char)
  | '0' :: rest => afterZeros '0' rest
  | c :: rest => if c.isDigit || c == '-' then some (c :: rest) else none
  | [] => none

/-- A text without a point and the zeros after it. -/
def dropZeroFraction (text : List Char) : List Char :=
  match text.dropWhile (· != '.') with
  | _ :: zero :: zeros =>
    if (zero :: zeros).all (· == '0') then text.takeWhile (· != '.') else text
  | _ => text

/-- Whether two underscores stand together. -/
def hasDoubleMark : List Char → Bool
  | '_' :: '_' :: _ => true
  | _ :: rest => hasDoubleMark rest
  | [] => false

/-- A text without its underscores; none if it has none, or has one at an end or next to another. -/
def dropMarks (text : List Char) : Option (List Char) :=
  if text.head? = some '_' ∨ text.getLast? = some '_' ∨ !text.contains '_' ∨ hasDoubleMark text then
    none
  else some (text.filter (· != '_'))

/-- An integer without its ornaments; none if the text begins like no number. -/
def clean (text : List Char) : Option (List Char) := do
  let trimmed := trimBy isUnicodeSpace text
  let unsigned := match trimmed with
    | '+' :: rest => rest
    | text => text
  let text := dropZeroFraction (← dropZeros unsigned)
  return (dropMarks text).getD text

/-- The integer that a text stands for. -/
def integer (text : List Char) : Except IntegerFault Int :=
  match plainInteger text with
  | .error .notOne =>
    match clean text with
    | some text => plainInteger text
    | none => .error .notOne
  | outcome => outcome

/-- The double that a text stands for. -/
def binary64? (text : List Char) : Option Binary64 :=
  (Decimal.binary64? (trimBy isUnicodeSpace text)).or
    ((dropMarks text).bind Decimal.binary64?)

end Lenient
end BinaryDiff
