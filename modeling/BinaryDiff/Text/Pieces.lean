/-! # Cutting a text at separators

A text with `n` separators has `n + 1` pieces, some of them perhaps empty. Paths are cut at their
slashes this way, and texts at their line ends. -/

namespace BinaryDiff

/-- Puts characters in front of the first piece. -/
def extendHead (chars : List Char) : List (List Char) → List (List Char)
  | [] => [chars]
  | piece :: pieces => (chars ++ piece) :: pieces

/-- Puts a character in front of the first piece. -/
def extendFirst (c : Char) (pieces : List (List Char)) : List (List Char) := extendHead [c] pieces

/-- The pieces between the characters of a class. -/
def piecesBy (isBreak : Char → Bool) : List Char → List (List Char)
  | [] => [[]]
  | c :: rest =>
    if isBreak c then [] :: piecesBy isBreak rest else extendFirst c (piecesBy isBreak rest)

end BinaryDiff
