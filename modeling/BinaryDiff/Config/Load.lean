import BinaryDiff.Config.Interpolation
import BinaryDiff.Config.Search
import BinaryDiff.Yaml.Load

/-! # Loading the configuration

The configuration file is read as UTF-8 and as YAML; an empty document, and any other that says
nothing, means the defaults. What remains must be a mapping, in which environment variables are
put in before it is checked. -/

namespace BinaryDiff

namespace ConfigLoad

/-- The text in a file. -/
def readText : Content → Except ConfigFailure String
  | .database .. => .error .undecodable
  | .bytes data =>
    match Utf8.decode data with
    | some chars => .ok (String.ofList (unifyLineEnds chars))
    | none => .error .undecodable

/-- The document in a text. -/
def readDocument (text : String) : Except ConfigFailure (Option Document) :=
  match Yaml.load text with
  | .ok document => .ok document
  | .error .malformed => .error .malformed
  | .error (.badScalar fault) => .error (.badScalar fault)

/-- The settings that a document stands for, after environment variables were put in. -/
def settings (environment : Interpolation.Environment) (document : Document) :
    Except ConfigFailure Settings :=
  match Settings.ofDocument (Interpolation.walk environment document) with
  | .ok settings => .ok settings
  | .error problems => .error (.invalid problems)

/-- The settings in the text of the file at a path. -/
def ofText (environment : Interpolation.Environment) (path text : String) :
    Except ConfigFailure Settings := do
  match ← readDocument text with
  | none => return .default
  | some document =>
    if document.isEmpty then return .default
    else match document with
      | .mapping _ =>
        if Interpolation.endless document then throw .endless
        else settings environment document
      | other => throw (.notAMapping path other.typeName)

end ConfigLoad

/-- Loads the configuration; without a file it is the default one. -/
def loadConfig (around : Surroundings) (given : Option Path) : Except ConfigFailure Settings := do
  match ← findConfig around given with
  | none => return .default
  | some path =>
    match around.lookup path with
    | .found (.file content) =>
      let text ← ConfigLoad.readText content
      ConfigLoad.ofText around.environmentValue path.text text
    | _ => return .default

end BinaryDiff
