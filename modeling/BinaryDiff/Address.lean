import BinaryDiff.Number.Natural
import BinaryDiff.Text.Hex

/-! # Addresses

A store keeps an address as a signed 64-bit integer, so the upper half of the address space comes
back negative. `toAddress` undoes that and rejects what does not fit the address width in force;
`formatAddress` is the one way in which an address is shown. -/

namespace BinaryDiff

/-- The default number of bits in an address. -/
def addressWidth : Int := 64

/-- The address behind a stored integer: a negative one counts back from `2^64`. There is none when
the value needs more than `width` bits. -/
def toAddress (raw : Int) (width : Nat) : Option Int :=
  let value := if raw < 0 then raw % (twoTo 64 : Int) else raw
  if value < (twoTo width : Int) then some value else none

/-- An address as `0x` and at least eight places; a minus sign takes one of the places. -/
def formatAddress (address : Int) : String :=
  if address < 0 then "0x-" ++ String.ofList (Hex.padded 7 address.natAbs)
  else "0x" ++ String.ofList (Hex.padded 8 address.natAbs)

/-- A match: an address in the primary binary and its counterpart in the secondary one. -/
structure AddressPair where
  primary : Int
  secondary : Int
deriving DecidableEq, Repr

namespace AddressPair

/-- A match as it appears in messages and logs. -/
def text (pair : AddressPair) : String :=
  "(" ++ formatAddress pair.primary ++ ", " ++ formatAddress pair.secondary ++ ")"

end AddressPair
end BinaryDiff
