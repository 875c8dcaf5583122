import BinaryDiff.Text.Blank
import BinaryDiff.Text.CodeRange

/-! # Decimal integers

An integer in a dump may be written in the decimal digits of any script, with a sign, with single
underscores between digits and with blanks around it. -/

namespace BinaryDiff

/-- The zeros of the decimal digits beyond ASCII; each is followed by its nine companions. -/
def wideZeros : List CodeRange := CodeRange.list
  "660 6F0 7C0 966 9E6 A66 AE6 B66 BE6 C66 CE6 D66 DE6 E50 ED0 F20 1040 1090 17E0 1810 1946 19D0
1A80 1A90 1B50 1BB0 1C40 1C50 A620 A8D0 A900 A9D0 A9F0 AA50 ABF0 FF10 104A0 10D30 11066 110F0 11136
111D0 112F0 11450 114D0 11650 116C0 11730 118E0 11950 11C50 11D50 11DA0 16A60 16AC0 16B50 1D7CE
1D7D8 1D7E2 1D7EC 1D7F6 1E140 1E2F0 1E950 1FBF0"

/-- The value of a decimal digit of any script. -/
def decimalDigit (c : Char) : Option Nat :=
  if c.isDigit then some (c.toNat - 48)
  else if c.toNat < 0x80 then none
  else (wideZeros.find? fun zero => zero.first ≤ c.toNat && c.toNat < zero.first + 10).map
    fun zero => c.toNat - zero.first

/-- The number that digits with single underscores between them stand for, read after `sum`;
`fresh` tells that the next character has to be a digit. -/
def readDigits (digit : Char → Option Nat) (fresh : Bool) (sum : Nat) : List Char → Option Nat
  | [] => if fresh then none else some sum
  | '_' :: rest => if fresh then none else readDigits digit true sum rest
  | c :: rest => (digit c).bind fun value => readDigits digit false (10 * sum + value) rest

/-- The integer that a text with an optional sign stands for. -/
def readSigned (digit : Char → Option Nat) : List Char → Option Int
  | '-' :: rest => (readDigits digit true 0 rest).map fun n => -(n : Int)
  | '+' :: rest => (readDigits digit true 0 rest).map Int.ofNat
  | text => (readDigits digit true 0 text).map Int.ofNat

/-- The integer that a text stands for. -/
def readInteger (text : String) : Option Int :=
  readSigned decimalDigit (strip text.toList)

end BinaryDiff
