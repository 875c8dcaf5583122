import BinaryDiff.Number.Binary64

/-! # Configuration documents

What a configuration file says, before anybody asks whether it makes sense: scalars of several
types, lists, mappings and sets. Keys of mappings are scalars. -/

namespace BinaryDiff

/-- A scalar of a configuration document. -/
inductive Scalar
  | null
  | bool (value : Bool)
  | int (value : Int)
  | real (value : Binary64)
  | text (value : String)
  | bytes (value : List UInt8)
  /-- A day of the calendar. -/
  | date (year month day : Nat)
  /-- A moment, by its day, its microseconds since midnight and the seconds by which its zone is
  ahead of universal time, if it names one. -/
  | moment (year month day microsecond : Nat) (zone : Option Int)
deriving DecidableEq, Repr

namespace Scalar

/-- The integer that a scalar is equal to: a truth value counts as zero or one. -/
def integer? : Scalar → Option Int
  | bool value => some (if value then 1 else 0)
  | int value => some value
  | real value => value.toInt?
  | _ => none

/-- The number of days from the first of March of the year zero to a day. -/
def dayNumber (year month day : Nat) : Nat :=
  let year := if month < 3 then year - 1 else year
  let month := if month < 3 then month + 9 else month - 3
  365 * year + year / 4 - year / 100 + year / 400 + (153 * month + 2) / 5 + day

/-- The microseconds from a fixed moment to a moment whose zone is known. -/
def instant? : Scalar → Option Int
  | moment year month day microsecond (some zone) =>
    some (((dayNumber year month day : Int) * 86400 - zone) * 1000000 + microsecond)
  | _ => none

/-- Whether two scalars are one key: numbers are compared by value whatever their types, and moments
whose zones are known by the time that they mean. What is not a number differs even from itself. -/
def sameKey (a b : Scalar) : Bool :=
  if a = real .notANumber then false
  else if a.integer?.isSome then a.integer? == b.integer?
  else if a.instant?.isSome then a.instant? == b.instant?
  else a == b

end Scalar

/-- A configuration document. -/
inductive Document
  | scalar (value : Scalar)
  | list (items : List Document)
  /-- A key with its value in an ordered list of such pairs. -/
  | entry (key value : Document)
  | mapping (members : List (Scalar × Document))
  | set (items : List Scalar)
  /-- A reference to a container from within itself. -/
  | cycle
deriving Repr

namespace Document

/-- The document that is a text. -/
def text (value : String) : Document := scalar (.text value)

/-- The name of the document's type in messages. -/
def typeName : Document → String
  | scalar .null => "NoneType"
  | scalar (.bool _) => "bool"
  | scalar (.int _) => "int"
  | scalar (.real _) => "float"
  | scalar (.text _) => "str"
  | scalar (.bytes _) => "bytes"
  | scalar (.date ..) => "date"
  | scalar (.moment ..) => "datetime"
  | list _ | cycle => "list"
  | entry .. => "tuple"
  | mapping _ => "dict"
  | set _ => "set"

/-- Whether the document says nothing: it is null, false, zero or empty. -/
def isEmpty : Document → Bool
  | scalar .null => true
  | scalar (.bool value) => !value
  | scalar (.int value) => value == 0
  | scalar (.real (.finite _ units)) => units == 0
  | scalar (.text value) => value.isEmpty
  | scalar (.bytes value) => value.isEmpty
  | list items => items.isEmpty
  | mapping members => members.isEmpty
  | set items => items.isEmpty
  | _ => false

/-- The value of a member that is named by a text. -/
def member? (members : List (Scalar × Document)) (name : String) : Option Document :=
  (members.find? (·.1 == .text name)).map Prod.snd

end Document
end BinaryDiff
