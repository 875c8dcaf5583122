/-! # Hexadecimal text

Addresses are shown in base sixteen, with lower-case digits and, where a column has to line up,
with zeros on the left. This module writes natural numbers and bytes that way and reads them
back; everything works on lists of characters, so that the two directions can be compared digit
by digit. -/

namespace BinaryDiff
namespace Hex

/-- The digit that stands for a value below sixteen. -/
def digit (value : Nat) : Char :=
  if value < 10 then Char.ofNat (48 + value) else Char.ofNat (87 + value)

/-- The value of a digit, in either case of letters. -/
def valueOf (c : Char) : Option Nat :=
  if '0' ≤ c ∧ c ≤ '9' then some (c.toNat - 48)
  else if 'a' ≤ c ∧ c ≤ 'f' then some (c.toNat - 87)
  else if 'A' ≤ c ∧ c ≤ 'F' then some (c.toNat - 55)
  else none

/-- The digits of a number, most significant first; zero has the one digit `0`. -/
def digits (n : Nat) : List Char :=
  if n < 16 then [digit n] else digits (n / 16) ++ [digit (n % 16)]

/-- The digits of a number, with zeros on the left up to the given length. -/
def padded (length n : Nat) : List Char :=
  List.replicate (length - (digits n).length) '0' ++ digits n

/-- The number that a list of digits stands for; the empty list is no number. -/
def ofDigits (text : List Char) : Option Nat :=
  if text.isEmpty then none
  else text.foldl (fun sum c => do return 16 * (← sum) + (← valueOf c)) (some 0)

/-- An integer with its sign and the marker `0x`. -/
def signed (n : Int) : String :=
  (if n < 0 then "-0x" else "0x") ++ String.ofList (digits n.natAbs)

/-- The bytes that a text of digit pairs stands for. -/
def bytes : List Char → Option (List UInt8)
  | [] => some []
  | [_] => none
  | high :: low :: rest => do
    let byte := 16 * (← valueOf high) + (← valueOf low)
    return UInt8.ofNat byte :: (← bytes rest)

end Hex
end BinaryDiff
