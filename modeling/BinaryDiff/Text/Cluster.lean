import BinaryDiff.Text.CellWidth

/-! # Clusters

A text is cut between clusters only: a character with all those that combine with it, join it or
change how it is shown. Every cluster but the first has a width. -/

namespace BinaryDiff

/-- Characters that are shown as one. -/
structure Cluster where
  chars : List Char
  /-- The number of cells that they take. -/
  width : Nat
deriving DecidableEq, Repr

namespace Cluster

/-- A cluster with further characters, which may widen it. -/
def extend (cluster : Cluster) (chars : List Char) (more : Nat) : Cluster :=
  ⟨cluster.chars ++ chars, cluster.width + more⟩

/-- The clusters of a text after others, the last of which comes first; `widens` tells that the last
character with a width takes one cell more as a picture. -/
def listAfter (widens : Bool) : List Cluster → List Char → List Cluster
  | done, [] => done.reverse
  | [], c :: rest =>
    if c == pictureJoiner || c == pictureSelector then listAfter widens [⟨[c], 0⟩] rest
    else listAfter (isWidened c) [⟨[c], charCells c⟩] rest
  | last :: done, c :: rest =>
    if c == pictureJoiner then
      match rest with
      | [] => listAfter widens (last.extend [c] 0 :: done) []
      | d :: rest => listAfter widens (last.extend [c, d] 0 :: done) rest
    else if c == pictureSelector then
      listAfter false (last.extend [c] (if widens then 1 else 0) :: done) rest
    else if charCells c = 0 then listAfter widens (last.extend [c] 0 :: done) rest
    else listAfter (isWidened c) (⟨[c], charCells c⟩ :: last :: done) rest

/-- The clusters of a text. -/
def list (text : List Char) : List Cluster := listAfter false [] text

end Cluster
end BinaryDiff
