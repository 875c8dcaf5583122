import BinaryDiff.Number.Binary64

/-! # Decimal numbers as text

The numbers of configuration files are written as digits with an optional point and an optional
exponent. Infinities and the number that is none have names. -/

namespace BinaryDiff
namespace Decimal

/-- The decimal digits that a text begins with, and what follows them. -/
def digitRun (text : List Char) : List Nat × List Char :=
  ((text.takeWhile Char.isDigit).map fun c => c.toNat - 48, text.dropWhile Char.isDigit)

/-- The number that digits stand for. -/
def ofDigits (digits : List Nat) : Nat :=
  digits.foldl (fun sum digit => 10 * sum + digit) 0

/-- The exponent part of a number; a text without one has exponent zero. -/
def exponent? : List Char → Option Int
  | [] => some 0
  | c :: rest =>
    if c == 'e' || c == 'E' then
      let (negative, rest) := match rest with
        | '-' :: rest => (true, rest)
        | '+' :: rest => (false, rest)
        | rest => (false, rest)
      match digitRun rest with
      | ([], _) => none
      | (digits, []) => some (if negative then -(ofDigits digits : Int) else ofDigits digits)
      | (_, _ :: _) => none
    else none

/-- The double that an unsigned decimal text stands for. -/
def unsigned? (negative : Bool) (text : List Char) : Option Binary64 :=
  let (whole, rest) := digitRun text
  let (fraction, rest) := match rest with
    | '.' :: rest => digitRun rest
    | rest => ([], rest)
  if whole.isEmpty && fraction.isEmpty then none
  else (exponent? rest).map fun exponent =>
    Binary64.ofDecimal negative (ofDigits (whole ++ fraction)) (exponent - fraction.length)

/-- The double that a text without sign stands for: a decimal number, or a name. -/
def magnitude? (negative : Bool) (text : List Char) : Option Binary64 :=
  let name := text.map Char.toLower
  if name == "inf".toList || name == "infinity".toList then some (.infinity negative)
  else if name == "nan".toList then some .notANumber
  else unsigned? negative text

/-- The double that a text stands for. -/
def binary64? : List Char → Option Binary64
  | '-' :: rest => magnitude? true rest
  | '+' :: rest => magnitude? false rest
  | text => magnitude? false text

end Decimal
end BinaryDiff
