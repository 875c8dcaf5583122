import BinaryDiff.Config.Settings
import BinaryDiff.Log.Setup

/-! # The root of the log

All events go through the root of the log, which the whole process shares: it keeps the handlers
that write them and the rank from which they are written. Setting the log up puts one new handler in
the place of all that were there, and looks at the level only after that. A level that is refused
thus leaves the new handler with the old rank. -/

namespace BinaryDiff

/-- Something that writes the events of the log. -/
inductive LogHandler
  /-- The handler of a set-up, which writes JSON or lines for the console. -/
  | own (json : Bool)
  /-- A handler of somebody else. -/
  | foreign (name : String)
deriving DecidableEq, Repr

/-- The root of the log. -/
structure LogRoot where
  handlers : List LogHandler
  /-- The rank from which events are written. -/
  threshold : Nat
deriving DecidableEq, Repr

/-- A request to set up the log as it is configured. -/
structure LogRequest where
  settings : LogSettings
  /-- Whether all events are wanted, whatever level is configured. -/
  verbose : Bool
deriving DecidableEq, Repr

namespace LogRoot

/-- The root without handlers. -/
def clear (root : LogRoot) : LogRoot := { root with handlers := [] }

/-- The root with one handler more. -/
def addHandler (handler : LogHandler) (root : LogRoot) : LogRoot :=
  { root with handlers := root.handlers ++ [handler] }

/-- The root with the rank of a level; a level may be refused. -/
def setLevel (level : String) (root : LogRoot) : LogRoot × Option Failure :=
  match BinaryDiff.threshold level with
  | .ok rank => ({ root with threshold := rank }, none)
  | .error failure => (root, some failure)

/-- Sets the log up with a level and a form of output. -/
def setUp (level : String) (json : Bool) (root : LogRoot) : LogRoot × Option Failure :=
  (root.clear.addHandler (.own json)).setLevel level

/-- Sets the log up as a request wants it. -/
def answer (request : LogRequest) (root : LogRoot) : LogRoot × Option Failure :=
  root.setUp (request.settings.levelFor request.verbose) request.settings.json

/-- Answers requests one after the other, refused or not, and keeps what each of them came to. -/
def answerAll (root : LogRoot) : List LogRequest → LogRoot × List (Option Failure)
  | [] => (root, [])
  | request :: requests =>
    let (next, complaint) := root.answer request
    let (last, complaints) := next.answerAll requests
    (last, complaint :: complaints)

end LogRoot
end BinaryDiff
