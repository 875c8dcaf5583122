import BinaryDiff.Text.Pieces

/-! # Paths

A path is a sequence of names, from the root or from the working directory. Writing one down
normalises it: empty names and single dots vanish, while `..` stays, since what it means depends on
the file system. The empty path is written as a dot. Exactly two leading slashes are kept apart
from one, as POSIX allows them a meaning of their own. -/

namespace BinaryDiff

/-- A path in normal form. -/
structure Path where
  /-- The number of slashes in front: none for a relative path, else one or two. -/
  slashes : Nat
  /-- The names, none of them empty or a single dot. -/
  parts : List String
deriving DecidableEq, Repr

namespace Path

/-- The names in a text between its slashes. -/
def names (text : List Char) : List String :=
  ((piecesBy (· == '/') text).filter fun name => name != [] && name != ['.']).map String.ofList

/-- The path that a text describes. -/
def ofText (text : String) : Path :=
  let chars := text.toList
  let leading := (chars.takeWhile (· == '/')).length
  ⟨if leading = 2 then 2 else min leading 1, names chars⟩

/-- The normal form as text. -/
def text (path : Path) : String :=
  if path.slashes = 0 ∧ path.parts = [] then "."
  else String.ofList (List.replicate path.slashes '/') ++ "/".intercalate path.parts

/-- Whether the path starts from the root. -/
def isAbsolute (path : Path) : Bool := path.slashes != 0

/-- A path with further names. -/
def extend (path : Path) (names : List String) : Path :=
  { path with parts := path.parts ++ names }

end Path

/-- A path as it was given, which is how messages show it, together with its normal form. -/
structure GivenPath where
  shown : String
  path : Path
deriving DecidableEq, Repr

namespace GivenPath

/-- A path given as text, shown as given. -/
def ofText (text : String) : GivenPath := ⟨text, Path.ofText text⟩

/-- A path shown in normal form. -/
def ofPath (path : Path) : GivenPath := ⟨path.text, path⟩

end GivenPath
end BinaryDiff
