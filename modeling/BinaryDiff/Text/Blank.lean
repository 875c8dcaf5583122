/-! # White space

Two notions of white space meet in this program. Labels and the words of a shown text use the
wider one, which also counts the four information separators of ASCII; configuration values use
the one of the Unicode property `White_Space`. -/

namespace BinaryDiff

/-- The characters with the Unicode property `White_Space`. -/
def isUnicodeSpace (c : Char) : Bool :=
  let code := c.toNat
  (0x09 ≤ code && code ≤ 0x0D) || code == 0x20 || code == 0x85 || code == 0xA0 || code == 0x1680
    || (0x2000 ≤ code && code ≤ 0x200A) || code == 0x2028 || code == 0x2029 || code == 0x202F
    || code == 0x205F || code == 0x3000

/-- White space together with the information separators `U+001C` to `U+001F`. -/
def isBlank (c : Char) : Bool :=
  isUnicodeSpace c || (0x1C ≤ c.toNat && c.toNat ≤ 0x1F)

/-- A text without the characters of a class at its end. -/
def trimEnd (drop : Char → Bool) (text : List Char) : List Char :=
  (text.reverse.dropWhile drop).reverse

/-- A text without the characters of a class at its two ends. -/
def trimBy (drop : Char → Bool) (text : List Char) : List Char :=
  trimEnd drop (text.dropWhile drop)

/-- A text without the blanks at its two ends. -/
def strip (text : List Char) : List Char :=
  trimBy isBlank text

/-- A text with every kind of line end as a line feed. -/
def unifyLineEnds : List Char → List Char
  | [] => []
  | '\r' :: '\n' :: rest => '\n' :: unifyLineEnds rest
  | '\r' :: rest => '\n' :: unifyLineEnds rest
  | c :: rest => c :: unifyLineEnds rest

end BinaryDiff
