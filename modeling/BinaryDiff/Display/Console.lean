/-! # Consoles

Two things about what is shown are not up to the program: how many characters a line of the console
has, and how the arguments of an action in a markup text are read, which are literals of another
language. Nothing is assumed about either. -/

namespace BinaryDiff

/-- Why a text is no literal. -/
inductive LiteralFault
  /-- It breaks the rules of writing. -/
  | misspelt (reason : String)
  /-- It stands for no value. -/
  | worthless (reason : String)
deriving DecidableEq, Repr

/-- What texts are shown on. -/
structure Console where
  /-- The number of characters in a line. -/
  width : Nat
  /-- Makes sure that a text is a literal. -/
  literal : List Char → Except LiteralFault Unit

end BinaryDiff
