import BinaryDiff.Number.Binary64

/-! # JSON values

Reports, log records and table dumps are JSON. Integers and fractional numbers are kept apart, and
the members of an object keep their order. -/

namespace BinaryDiff

/-- A JSON value. -/
inductive Json
  | null
  | bool (value : Bool)
  | int (value : Int)
  | real (value : Binary64)
  | str (value : String)
  | arr (items : List Json)
  | obj (members : List (String × Json))
deriving Repr

namespace Json

/-- The member of an object with a given key. -/
def member? (key : String) : Json → Option Json
  | obj members => (members.find? (·.1 == key)).map Prod.snd
  | _ => none

/-- Adds a member to an object; one that has the key already is replaced where it stands. -/
def insert (members : List (String × Json)) (key : String) (value : Json) : List (String × Json) :=
  if members.any (·.1 == key) then
    members.map fun entry => if entry.1 == key then (key, value) else entry
  else members ++ [(key, value)]

/-- The object with the given members, where a later member replaces an earlier one of its key. -/
def ofMembers (members : List (String × Json)) : Json :=
  obj (members.foldl (fun sum entry => insert sum entry.1 entry.2) [])

/-- The members of an object; anything else has none. -/
def members : Json → List (String × Json)
  | obj members => members
  | _ => []

/-- The items of an array; anything else has none. -/
def items : Json → List Json
  | arr items => items
  | _ => []

/-- The text of a string. -/
def str? : Json → Option String
  | str value => some value
  | _ => none

/-- The value of an integer. -/
def int? : Json → Option Int
  | int value => some value
  | _ => none

end Json
end BinaryDiff
