/-! # Natural numbers

Powers of the two bases that formats are made of, rounded quotients, and totals of lists. -/

namespace BinaryDiff

/-- A power of two. -/
def twoTo (exponent : Nat) : Nat := Nat.pow 2 exponent

/-- A power of ten. -/
def tenTo (exponent : Nat) : Nat := Nat.pow 10 exponent

/-- The integer nearest to a fraction; of two, the even one. -/
def nearest (num den : Nat) : Nat :=
  let quotient := num / den
  let twice := 2 * (num % den)
  if twice < den then quotient
  else if twice = den then quotient + quotient % 2
  else quotient + 1

/-- The sum of some numbers. -/
def total (numbers : List Nat) : Nat := numbers.foldr (fun n sum => n + sum) 0

end BinaryDiff
