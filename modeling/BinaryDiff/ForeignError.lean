/-! # Errors from below

The reader is built on a file system and a database library, which raise errors of their own. Those
of the database library are expected in most places; but where it is used, the runtime may raise
others too, for example if there is no memory left, or if the text of an error of the database is
not UTF-8. -/

namespace BinaryDiff

/-- An error from below. -/
structure ForeignError where
  /-- The name of the kind of error. -/
  name : String
  text : String
  /-- Whether the kind is one of the database library. -/
  ofDatabase : Bool
deriving DecidableEq, Repr

namespace ForeignError

/-- The error of the database library about a query or a value. -/
def operational (text : String) : ForeignError := ⟨"OperationalError", text, true⟩

/-- The error of the database library about a file. -/
def ofFile (text : String) : ForeignError := ⟨"DatabaseError", text, true⟩

end ForeignError
end BinaryDiff
