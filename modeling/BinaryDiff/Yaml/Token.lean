/-! # Tokens

What the lexer makes of a document: the markers between documents, the beginnings and ends of
collections, of which those of block collections are signs that the indentation changes, the
indicators, and the scalars with what may stand in front of them. -/

namespace BinaryDiff
namespace Yaml

/-- A directive in front of a document. -/
inductive Directive
  /-- The version of the language. -/
  | version (major minor : Nat)
  /-- A handle that abbreviates the beginnings of tags. -/
  | tagHandle (handle start : List Char)
  | other
deriving DecidableEq, Repr

/-- A tag as it is written: its handle, if it has one, and the rest. -/
structure RawTag where
  handle : Option (List Char)
  suffix : List Char
deriving DecidableEq, Repr

/-- A token. -/
inductive Token
  | directive (directive : Directive)
  | documentStart
  | documentEnd
  | blockSequenceStart
  | blockMappingStart
  | blockEnd
  | flowSequenceStart
  | flowSequenceEnd
  | flowMappingStart
  | flowMappingEnd
  | blockEntry
  | flowEntry
  | key
  | value
  | alias (name : List Char)
  | anchor (name : List Char)
  | tag (tag : RawTag)
  | scalar (text : List Char) (plain : Bool)
deriving DecidableEq, Repr

end Yaml
end BinaryDiff
