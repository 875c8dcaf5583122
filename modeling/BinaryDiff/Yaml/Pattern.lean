/-! # Patterns

Whether a plain scalar is a number, a truth value or a date is decided by patterns over its
characters. A pattern is matched by computing what can remain of a text after it, which is exact,
since the patterns here are finite combinations of characters, sequences, choices and
repetitions. -/

namespace BinaryDiff
namespace Yaml

/-- A pattern. -/
inductive Pattern
  /-- One character of a class. -/
  | one (inside : Char → Bool)
  /-- A word. -/
  | word (chars : List Char)
  /-- One pattern after the other. -/
  | both (first second : Pattern)
  /-- Either of two patterns. -/
  | either (first second : Pattern)
  /-- A pattern or nothing. -/
  | optional (pattern : Pattern)
  /-- Any number of times a pattern that matches no empty text. -/
  | many (pattern : Pattern)

namespace Pattern

/-- What can remain of a text after repeated matches, given what can remain after one. -/
def repeatedly (once : List Char → List (List Char)) : Nat → List Char → List (List Char)
  | 0, text => [text]
  | limit + 1, text => text :: (once text).flatMap (repeatedly once limit)

/-- What can remain of a text after the pattern. -/
def remains : Pattern → List Char → List (List Char)
  | one inside, text =>
    match text with
    | c :: rest => if inside c then [rest] else []
    | [] => []
  | word chars, text => if chars.isPrefixOf text then [text.drop chars.length] else []
  | both first second, text => (remains first text).flatMap (remains second)
  | either first second, text => remains first text ++ remains second text
  | optional pattern, text => remains pattern text ++ [text]
  | many pattern, text => repeatedly (remains pattern) text.length text

/-- Whether the pattern matches all of a text. -/
def fits (pattern : Pattern) (text : List Char) : Bool :=
  (pattern.remains text).any List.isEmpty

/-- Several patterns one after the other. -/
def sequence : List Pattern → Pattern
  | [] => word []
  | [pattern] => pattern
  | pattern :: others => both pattern (sequence others)

/-- Any of several patterns. -/
def anyOf : List Pattern → Pattern
  | [] => one fun _ => false
  | [pattern] => pattern
  | pattern :: others => either pattern (anyOf others)

/-- Any of several words. -/
def words (list : List String) : Pattern := anyOf (list.map fun text => word text.toList)

/-- A pattern at least once. -/
def some (pattern : Pattern) : Pattern := both pattern (many pattern)

/-- One of the characters of a list. -/
def oneOf (chars : String) : Pattern := one fun c => chars.toList.contains c

end Pattern
end Yaml
end BinaryDiff
