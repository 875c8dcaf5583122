import BinaryDiff.Address
import BinaryDiff.ForeignError
import BinaryDiff.Granularity

/-! # The failures of reading a diff result

Reading a store fails in one of four ways: it is not there, it cannot be read, its contents do not
have the expected shape, or a sink rejected a match. Each failure keeps what is needed to describe
it without going back to the store. A rejection also keeps the complaint it was made of, which may
be anything that can go wrong, another such failure included; so the types of all failures are
declared here together. -/

namespace BinaryDiff

/-- What a schema check expected or found. -/
inductive Figure
  | truth (value : Bool)
  | number (value : Int)
  | text (value : String)
deriving DecidableEq, Repr

/-- A figure as it appears in a message. -/
def Figure.display : Option Figure → String
  | none => "None"
  | some (.truth value) => if value then "True" else "False"
  | some (.number value) => toString value
  | some (.text value) => value

mutual

/-- A failure of reading a diff result. -/
inductive DiffError
  /-- A failure of no particular kind. -/
  | general (message : String) (path : Option String)
  /-- There is no file at the path. -/
  | notFound (path : String)
  /-- The file cannot be read as a database. -/
  | unreadable (path reason : String)
  /-- A table is not what it should be. -/
  | schema (path table detail : String) (expected actual : Option Figure)
  /-- A sink rejected a match. -/
  | rejected (granularity : Granularity) (pair : AddressPair) (index : Int) (sinkMessage : String)
      (path : Option String) (cause : Cause)
deriving DecidableEq, Repr

/-- What a rejection goes back to. -/
inductive Cause
  /-- Nothing that is known. -/
  | unknown
  /-- The complaint of the sink. -/
  | complaint (failure : Failure)
deriving DecidableEq, Repr

/-- Anything that ends a call early. -/
inductive Failure
  /-- A failure of reading a diff result. -/
  | diff (error : DiffError)
  /-- Something that the reader is built on fails, where nothing expects that. -/
  | foreign (error : ForeignError)
  /-- A cursor is used or closed after its database was closed. -/
  | databaseClosed
  /-- An address is tested against a negative width. -/
  | negativeWidth
  /-- The file system refuses a path for its length. -/
  | nameTooLong (path : String)
  /-- Something that is no sink was handed over as one. -/
  | notASink (typeName : String)
  /-- A cursor was iterated a second time. -/
  | alreadyConsumed (granularity : Granularity)
  /-- A collecting sink was asked for with a negative limit. -/
  | negativeLimit (limit : Int)
  /-- A collecting sink holds all the matches it may hold. -/
  | sinkFull (limit : Int)
  /-- More items were asked for than can be counted. -/
  | limitTooLarge
  /-- A field of a record was to be changed or deleted. -/
  | frozenField (field : String) (deletion : Bool)
  /-- A granularity was asked for by a label that stands for none. -/
  | unknownGranularity (label : String)
  /-- The caller's code raised an error of the named kind. -/
  | raised (name text : String)
  /-- The caller's code raised an error of the named kind that cannot be put into words: to ask for
  its text raises another error, of the kind and with the text given last. -/
  | wordless (name kind text : String)
  /-- The caller's code asked to stop altogether. -/
  | interrupted (name text : String)
deriving DecidableEq, Repr

end

namespace DiffError

/-- The tag of a failure. -/
def kind : DiffError → String
  | general .. => "diff_result_error"
  | notFound .. => "not_found"
  | unreadable .. => "io_error"
  | schema .. => "schema_error"
  | rejected .. => "callback_error"

/-- The name of the failure's class. -/
def className : DiffError → String
  | general .. => "DiffResultError"
  | notFound .. => "DiffNotFoundError"
  | unreadable .. => "DiffIOError"
  | schema .. => "SchemaError"
  | rejected .. => "CallbackError"

/-- The path of the store concerned, if one is known. -/
def path : DiffError → Option String
  | general _ path => path
  | notFound path => some path
  | unreadable path _ => some path
  | schema path .. => some path
  | rejected _ _ _ _ path _ => path

/-- The message of a failure. -/
def message : DiffError → String
  | general message _ => message
  | notFound path => s!"Diff result not found: {path}"
  | unreadable path reason => s!"Cannot read diff result {path}: {reason}"
  | schema path table detail none none => s!"Invalid diff result {path}: table '{table}': {detail}"
  | schema path table detail expected actual =>
    s!"Invalid diff result {path}: table '{table}': {detail}" ++
      s!" (expected {Figure.display expected}, got {Figure.display actual})"
  | rejected granularity pair index sinkMessage _ _ =>
    s!"{granularity.label} sink rejected match #{index} {pair.text}: {sinkMessage}"

/-- The exit status that the command line reserves for a failure. -/
def exitCode : DiffError → Nat
  | general .. => 1
  | notFound .. => 2
  | unreadable .. => 3
  | schema .. => 4
  | rejected .. => 5

end DiffError
end BinaryDiff
