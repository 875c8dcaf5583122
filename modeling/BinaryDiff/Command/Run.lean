import BinaryDiff.Display.Print
import BinaryDiff.Log.Event

/-! # What a command comes to

A command logs events, prints to its two outputs, and ends with an exit status or with a failure
that nothing handles. -/

namespace BinaryDiff

/-- How a command ends. -/
inductive Ending
  /-- With an exit status. -/
  | status (code : Nat)
  /-- With a failure that nothing handles, of the named kind. -/
  | unhandled (name text : String)
deriving DecidableEq, Repr

namespace Ending

/-- The exit status that the system sees. -/
def exitCode : Ending → Nat
  | status code => code
  | unhandled .. => 1

end Ending

/-- What a command comes to. -/
structure Run where
  /-- All that was logged, whatever the level. -/
  events : List LogEvent
  stdout : String
  stderr : String
  ending : Ending
deriving Repr

namespace Run

/-- The end with a failure that nothing handles. -/
def escaped (events : List LogEvent) (failure : Failure) : Run :=
  ⟨events, "", "", .unhandled failure.name failure.text⟩

/-- The end with a markup text that cannot be shown. -/
def markupEnding (error : MarkupError) : Ending := .unhandled error.name error.message

/-- Prints some texts one after the other, up to the first that cannot be printed. -/
def printAll (events : List LogEvent) : List (Except MarkupError String) → Run
  | [] => ⟨events, "", "", .status 0⟩
  | .error error :: _ => ⟨events, "", "", markupEnding error⟩
  | .ok text :: texts =>
    let rest := printAll events texts
    { rest with stdout := text ++ rest.stdout }

/-- Complains about something and ends with an exit status. -/
def complain (console : Console) (events : List LogEvent) (message : String) (code : Nat) : Run :=
  match Display.error console message with
  | .ok text => ⟨events, "", text, .status code⟩
  | .error error => ⟨events, "", "", markupEnding error⟩

/-- Ends with a failure: complains about it if it is one of reading a diff result. -/
def failed (console : Console) (events : List LogEvent) : Failure → Run
  | .diff error => complain console events error.message error.exitCode
  | failure => escaped events failure

end Run
end BinaryDiff
