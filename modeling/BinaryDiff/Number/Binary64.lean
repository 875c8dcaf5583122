import BinaryDiff.Number.Natural

/-! # Double-precision numbers

A finite double is a whole multiple of `2^-1074`, the smallest positive one, so it is modelled as
a sign and that multiple. Comparison and arithmetic are then exact integer arithmetic followed by
one rounding to the nearest representable multiple, ties going to the even one. -/

namespace BinaryDiff

/-- A double-precision number; `finite` holds the magnitude in units of `2^-1074`. -/
inductive Binary64
  | notANumber
  | infinity (negative : Bool)
  | finite (negative : Bool) (units : Nat)
deriving DecidableEq, Repr

namespace Binary64

/-- The number of units in one. -/
def unitsInOne : Nat := twoTo 1074

/-- The least number of units that is too large to be finite. -/
def unitsInRange : Nat := twoTo 2098

/-- The double nearest to `num / den` units: the last of its 53 significant binary places, or the
unit itself, is the grain of the rounding. -/
def ofUnitFraction (negative : Bool) (num den : Nat) : Binary64 :=
  let grain := twoTo ((num / den).log2 - 52)
  let units := nearest num (den * grain) * grain
  if units < unitsInRange then finite negative units else infinity negative

/-- The double nearest to a fraction. -/
def ofFraction (negative : Bool) (num den : Nat) : Binary64 :=
  ofUnitFraction negative (num * unitsInOne) den

/-- The double nearest to an integer. -/
def ofInt (n : Int) : Binary64 :=
  ofFraction (n < 0) n.natAbs 1

/-- The double nearest to `digits · 10 ^ exponent`. Exponents far outside the range are settled
without computing the power. -/
def ofDecimal (negative : Bool) (digits : Nat) (exponent : Int) : Binary64 :=
  let magnitude := (Nat.toDigits 10 digits).length + exponent
  if digits = 0 then finite negative 0
  else if 310 < magnitude then infinity negative
  else if magnitude < -330 then finite negative 0
  else if 0 ≤ exponent then ofFraction negative (digits * tenTo exponent.toNat) 1
  else ofFraction negative digits (tenTo (-exponent).toNat)

/-- The negated number. -/
def neg : Binary64 → Binary64
  | notANumber => notANumber
  | infinity negative => infinity !negative
  | finite negative units => finite (!negative) units

/-- The rounded sum of two numbers. Opposite infinities have none, and only the sum of two negative
zeros is a negative zero. -/
def add : Binary64 → Binary64 → Binary64
  | finite s m, finite t n =>
    let left : Int := if s then -(m : Int) else m
    let right : Int := if t then -(n : Int) else n
    let sum := left + right
    ofUnitFraction (sum < 0 || (sum == 0 && s && t)) sum.natAbs 1
  | infinity s, infinity t => if s = t then infinity s else notANumber
  | infinity s, finite _ _ | finite _ _, infinity s => infinity s
  | notANumber, _ | _, notANumber => notANumber

/-- The rounded product of two numbers. Infinity times zero has none. -/
def mul : Binary64 → Binary64 → Binary64
  | finite s m, finite t n => ofUnitFraction (s != t) (m * n) unitsInOne
  | infinity s, infinity t => infinity (s != t)
  | infinity s, finite t n | finite t n, infinity s =>
    if n = 0 then notANumber else infinity (s != t)
  | notANumber, _ | _, notANumber => notANumber

/-- Whether the number is greater than zero. -/
def isPositive : Binary64 → Bool
  | notANumber => false
  | infinity negative => !negative
  | finite negative units => !negative && units != 0

/-- The integer that the number is, if it is one. -/
def toInt? : Binary64 → Option Int
  | finite negative units =>
    if units % unitsInOne = 0 then
      some (if negative then -((units / unitsInOne : Nat) : Int) else (units / unitsInOne : Nat))
    else none
  | _ => none

/-- A place on the line of doubles: the infinities stand outside the finite range. -/
def position : Binary64 → Int
  | notANumber => -(unitsInRange : Int) - 1
  | infinity negative => if negative then -(unitsInRange : Int) else unitsInRange
  | finite negative units => if negative then -(units : Int) else units

/-- The sixty-four bits of the interchange format. A magnitude below `2^53` units is its own
encoding; from there on each binary place beyond the 53rd adds one to the exponent field. -/
def bits : Binary64 → Nat
  | notANumber => 0x7FF8000000000000
  | infinity negative => (if negative then twoTo 63 else 0) + 0x7FF0000000000000
  | finite negative units =>
    let shift := units.log2 - 52
    (if negative then twoTo 63 else 0) + shift * twoTo 52 + units / twoTo shift

/-- The exponent of the last of `places` significant decimal digits of `units`. -/
def lastPlace (units places : Nat) : Int :=
  if unitsInOne ≤ units then
    ((Nat.toDigits 10 (units / unitsInOne)).length : Int) - places
  else
    -- a number below one has its first digit after as many zeros as its reciprocal has digits
    (1 : Int) - (Nat.toDigits 10 (unitsInOne / units)).length - places

/-- The two decimals with some significant places that stand next to `units`, as digits and the
exponent of the last of them; the nearer one comes first. -/
def decimalsBeside (units places : Nat) : List (Nat × Int) :=
  let exponent := lastPlace units places
  let (num, den) :=
    if 0 ≤ exponent then (units, unitsInOne * tenTo exponent.toNat)
    else (units * tenTo (-exponent).toNat, unitsInOne)
  let near := nearest num den
  let other := if near = num / den then near + 1 else near - 1
  [(near, exponent), (other, exponent)]

/-- The shortest decimal that rounds to a positive number of units, with at most `limit` further
places to try. Around a power of two the numbers below stand closer than those above, so that the
nearer decimal may round elsewhere while the other does not. -/
def shortestDecimal (units : Nat) (places : Nat) : Nat → Nat × Int
  | 0 => (decimalsBeside units places).headD (0, 0)
  | limit + 1 =>
    let readsBack := fun decimal : Nat × Int =>
      ofDecimal false decimal.1 decimal.2 == finite false units
    match (decimalsBeside units places).find? readsBack with
    | some decimal => decimal
    | none => shortestDecimal units (places + 1) limit

/-- Digits with a decimal point after the first `point` of them, or in scientific notation when the
point would stand far away. -/
def layOut (digits : List Char) (point : Int) : List Char :=
  if -4 < point ∧ point ≤ 16 then
    if point ≤ 0 then '0' :: '.' :: List.replicate (-point).toNat '0' ++ digits
    else if digits.length ≤ point.toNat then
      digits ++ List.replicate (point.toNat - digits.length) '0' ++ ['.', '0']
    else digits.take point.toNat ++ '.' :: digits.drop point.toNat
  else
    let exponent := point - 1
    let mantissa := match digits with
      | [first] => [first]
      | first :: others => first :: '.' :: others
      | [] => []
    let places := Nat.toDigits 10 exponent.natAbs
    mantissa ++ ['e', if exponent < 0 then '-' else '+']
      ++ List.replicate (2 - places.length) '0' ++ places

/-- The shortest text that reads back as the number. -/
def text : Binary64 → String
  | notANumber => "nan"
  | infinity negative => if negative then "-inf" else "inf"
  | finite negative units =>
    let digits :=
      if units = 0 then ['0', '.', '0']
      else
        let (number, exponent) := shortestDecimal units 1 16
        let digits := Nat.toDigits 10 number
        let short := (digits.reverse.dropWhile (· == '0')).reverse
        layOut short (digits.length + exponent)
    String.ofList (if negative then '-' :: digits else digits)

end Binary64
end BinaryDiff
