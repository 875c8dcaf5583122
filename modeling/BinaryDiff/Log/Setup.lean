import BinaryDiff.Log.Event
import BinaryDiff.Text.LetterCase

/-! # Logging set-up

A configuration names the least level that is logged and chooses between records in JSON and lines
for the console. The name is compared in upper case. An unknown name counts as `INFO`; two names are
taken by constants of the logging facility that are no levels, and are refused. -/

namespace BinaryDiff

/-- The levels that have names, with their ranks. -/
def levelRanks : List (String × Nat) :=
  [("CRITICAL", 50), ("FATAL", 50), ("ERROR", 40), ("WARN", 30), ("WARNING", 30), ("INFO", 20),
   ("DEBUG", 10), ("NOTSET", 0)]

/-- The layout of a line of the log where nothing else is said. -/
def plainLayout : String := "%(levelname)s:%(name)s:%(message)s"

/-- The styles in which layouts are written, as the logging facility shows them. -/
def shownStyles : String :=
  "\x7b'%': (<class 'logging.PercentStyle'>, '" ++ plainLayout ++ "'), "
    ++ "'\x7b': (<class 'logging.StrFormatStyle'>, "
    ++ "'\x7blevelname\x7d:\x7bname\x7d:\x7bmessage\x7d'), "
    ++ "'$': (<class 'logging.StringTemplateStyle'>, "
    ++ "'$\x7blevelname\x7d:$\x7bname\x7d:$\x7bmessage\x7d')\x7d"

/-- The constants that are mistaken for levels, with the complaints about them. -/
def mistakenConstants : List (String × Failure) :=
  [("BASIC_FORMAT", .raised "ValueError" ("Unknown level: '" ++ plainLayout ++ "'")),
   ("_STYLES", .raised "TypeError"
    ("Level not an integer or a valid string: " ++ shownStyles))]

/-- The rank from which events are logged. -/
def threshold (level : String) : Except Failure Nat :=
  let name := String.ofList (upper level.toList)
  match levelRanks.find? (·.1 == name), mistakenConstants.find? (·.1 == name) with
  | some (_, rank), _ => .ok rank
  | none, some (_, failure) => .error failure
  | none, none => .ok LogLevel.info.rank

/-- What has been decided about the log. -/
structure LogSetup where
  /-- The rank from which events are logged. -/
  threshold : Nat
  /-- Whether records are written as JSON rather than for the console. -/
  json : Bool
  /-- The number of handlers; setting up the log replaces whatever was there by one. -/
  handlers : Nat
deriving DecidableEq, Repr

namespace LogSetup

/-- The set-up for a level and a form of output. -/
def make (level : String) (json : Bool) : Except Failure LogSetup := do
  return ⟨← BinaryDiff.threshold level, json, 1⟩

/-- Whether an event is logged. -/
def admits (setup : LogSetup) (event : LogEvent) : Bool :=
  setup.threshold ≤ event.level.rank

/-- The records that the JSON log shows. -/
def records (setup : LogSetup) (events : List LogEvent) : List Json :=
  if setup.json then (events.filter setup.admits).map fun event => .obj event.fullRecord else []

/-- The lines that the console log shows, each by its level and event. -/
def lines (setup : LogSetup) (events : List LogEvent) : List (LogLevel × String) :=
  if setup.json then [] else (events.filter setup.admits).map fun event => (event.level, event.name)

end LogSetup
end BinaryDiff
