import BinaryDiff.Failure
import BinaryDiff.Json.Value

/-! # Log events

What the program does is logged as events with named fields. A field may hold a match or a
granularity, which are shown as everywhere else when the event is rendered. -/

namespace BinaryDiff

/-- How much an event matters. -/
inductive LogLevel
  | debug
  | info
  | warning
  | error
  | critical
deriving DecidableEq, Repr

namespace LogLevel

/-- The name of a level in log records. -/
def name : LogLevel → String
  | debug => "debug"
  | info => "info"
  | warning => "warning"
  | error => "error"
  | critical => "critical"

/-- The rank of a level, against which thresholds are held. -/
def rank : LogLevel → Nat
  | debug => 10
  | info => 20
  | warning => 30
  | error => 40
  | critical => 50

end LogLevel

/-- A value in a field of an event. -/
inductive LogValue
  | data (value : Json)
  | pair (value : AddressPair)
  | granularity (value : Granularity)
deriving Repr

namespace LogValue

/-- A field that holds a text. -/
def text (value : String) : LogValue := data (.str value)

/-- A field that holds a number. -/
def number (value : Int) : LogValue := data (.int value)

/-- The value as it is shown: matches in hexadecimal, granularities by their labels. -/
def render : LogValue → Json
  | data value => value
  | pair value => .str value.text
  | granularity value => .str value.label

end LogValue

/-- An event of the log. -/
structure LogEvent where
  /-- The part of the program that speaks. -/
  logger : String
  level : LogLevel
  name : String
  fields : List (String × LogValue)
deriving Repr

namespace LogEvent

/-- Adds a field to an event that has none of that name. -/
def bind (key : String) (value : LogValue) (event : LogEvent) : LogEvent :=
  if event.fields.any (·.1 == key) then event
  else { event with fields := event.fields ++ [(key, value)] }

/-- Marks an event as belonging to the work on the diff result at a path. -/
def about (path : String) (event : LogEvent) : LogEvent :=
  event.bind "diff_path" (.text path)

/-- The fields as they are shown. -/
def rendered (event : LogEvent) : List (String × Json) :=
  event.fields.map fun field => (field.1, field.2.render)

/-- The event with its level and its rendered fields. -/
def record (event : LogEvent) : List (String × Json) :=
  event.rendered ++ [("event", .str event.name), ("level", .str event.level.name)]

/-- The name under which a record shows a logger: the nameless one is the root. -/
def shownLogger (name : String) : String :=
  if name.isEmpty then "root" else name

/-- The fields that the JSON log keeps for itself and does not show. -/
def hiddenFields : List String := ["timestamp", "stack_info", "_record", "_from_structlog"]

/-- The record that the JSON log shows, which also names the speaker. -/
def fullRecord (event : LogEvent) : List (String × Json) :=
  (event.record.filter fun field => !hiddenFields.contains field.1)
    ++ [("logger", .str (shownLogger event.logger))]

end LogEvent

/-- A computation that logs events and may fail. -/
structure Logged (α : Type) where
  events : List LogEvent
  outcome : Except Failure α

namespace Logged

/-- A failure that logs nothing. -/
def fail {α : Type} (failure : Failure) : Logged α := ⟨[], .error failure⟩

/-- A result that logs nothing. -/
def ofExcept {α : Type} (outcome : Except Failure α) : Logged α := ⟨[], outcome⟩

/-- One event. -/
def log (event : LogEvent) : Logged Unit := ⟨[event], .ok ()⟩

/-- The second computation after the first, if that succeeds. -/
def andThen {α β : Type} (first : Logged α) (next : α → Logged β) : Logged β :=
  match first.outcome with
  | .error failure => ⟨first.events, .error failure⟩
  | .ok value => ⟨first.events ++ (next value).events, (next value).outcome⟩

instance : Monad Logged where
  pure value := ⟨[], .ok value⟩
  bind := andThen

end Logged
end BinaryDiff
