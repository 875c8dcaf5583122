import BinaryDiff.DiffError
import BinaryDiff.Text.Quoted

/-! # Everything that can go wrong

Besides the failures of reading a diff result there are those of wrong use (a cursor consumed
twice, a sink that is none, a negative width), those that the file system or the database raises
at a moment when nothing turns them into a `DiffError`, and those that the caller's own sinks
raise, for which there need not even be words. `Failure` lists them all, so that a statement about
how a run ends can say exactly which of them are possible. -/

namespace BinaryDiff

namespace Failure

/-- What becomes of an error from below while the store at a path is used, where errors of the
database library are expected: the store cannot be read, unless the error is of another kind. -/
def ofError (path : String) (error : ForeignError) : Failure :=
  if error.ofDatabase then .diff (.unreadable path error.text) else .foreign error

/-- The name of the kind of failure. -/
def name : Failure → String
  | diff error => error.className
  | foreign error => error.name
  | databaseClosed => "ProgrammingError"
  | negativeWidth | negativeLimit _ | sinkFull _ | limitTooLarge | unknownGranularity _ =>
    "ValueError"
  | nameTooLong _ => "OSError"
  | notASink _ => "TypeError"
  | alreadyConsumed _ => "RuntimeError"
  | frozenField .. => "FrozenInstanceError"
  | raised name _ | wordless name .. | interrupted name _ => name

/-- The text of the failure; it is empty if there are no words for it. -/
def text : Failure → String
  | diff error => error.message
  | foreign error => error.text
  | databaseClosed => "Cannot operate on a closed database."
  | negativeWidth => "negative shift count"
  | nameTooLong path => s!"[Errno 36] File name too long: {quoted path}"
  | notASink typeName => s!"Expected a MatchSink or callable, got {typeName}"
  | alreadyConsumed granularity => s!"{granularity.label} cursor already consumed"
  | negativeLimit limit => s!"limit must be non-negative, got {limit}"
  | sinkFull limit => s!"collected {limit} matches"
  | limitTooLarge => "Stop argument for islice() must be None or an integer: 0 <= x <= sys.maxsize."
  | frozenField field deletion =>
    (if deletion then "cannot delete field '" else "cannot assign to field '") ++ field ++ "'"
  | unknownGranularity label => Granularity.unknownLabel label
  | raised _ text | interrupted _ text => text
  | wordless .. => ""

/-- What a complaint leaves behind that cannot be passed on in other words: a request to stop
altogether is left as it is, and where there are no words for a complaint, the failure to find them
takes its place. -/
def escape? : Failure → Option Failure
  | interrupted name text => some (interrupted name text)
  | wordless _ kind text => some (raised kind text)
  | _ => none

/-- What is said about the failure where a message has to be: its text, or its name for want of
one. -/
def say (failure : Failure) : String :=
  if failure.text.isEmpty then failure.name else failure.text

end Failure

/-- The granularity that a label stands for. -/
def Granularity.ofLabel (label : String) : Except Failure Granularity :=
  match Granularity.ofLabel? label with
  | some granularity => .ok granularity
  | none => .error (.unknownGranularity label)

end BinaryDiff
