import BinaryDiff.Config.Load

/-! # The shared configuration

Commands share one configuration. It is loaded when it is first asked for and kept from then on; a
failure to load it leaves nothing behind, so that asking again tries again. -/

namespace BinaryDiff

/-- The configuration that commands share, once there is one. -/
structure Context where
  settings : Option Settings
deriving DecidableEq, Repr

namespace Context

/-- The context before anything was loaded. -/
def empty : Context := ⟨none⟩

/-- The configuration held, or else the one that loading gives. -/
def ensure (around : Surroundings) (context : Context) : Except ConfigFailure Settings × Context :=
  match context.settings with
  | some settings => (.ok settings, context)
  | none =>
    match loadConfig around none with
    | .ok settings => (.ok settings, ⟨some settings⟩)
    | .error failure => (.error failure, context)

/-- What can happen around a context. -/
inductive Action
  /-- All files are replaced. -/
  | replaceFiles (files : FileTree)
  /-- An environment variable is set. -/
  | setVariable (name value : String)
  /-- A configuration is put in. -/
  | preset (settings : Settings)
  /-- The configuration is forgotten. -/
  | forget
  /-- The configuration is asked for. -/
  | ensure

end Context

namespace Surroundings

/-- The surroundings with an environment variable set. -/
def setVariable (around : Surroundings) (name value : String) : Surroundings :=
  { around with environment := (name, value) :: around.environment.filter (·.1 != name) }

end Surroundings

namespace Context

/-- Carries out an action: the surroundings and the context after it, and what was answered to a
question for the configuration. -/
def act (around : Surroundings) (context : Context) :
    Action → Surroundings × Context × Option (Except ConfigFailure Settings)
  | .replaceFiles files => ({ around with files := files }, context, none)
  | .setVariable name value => (around.setVariable name value, context, none)
  | .preset settings => (around, ⟨some settings⟩, none)
  | .forget => (around, ⟨none⟩, none)
  | .ensure =>
    let (answer, context) := context.ensure around
    (around, context, some answer)

end Context
end BinaryDiff
