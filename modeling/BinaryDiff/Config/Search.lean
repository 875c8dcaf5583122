import BinaryDiff.Config.Settings
import BinaryDiff.Files.FileTree
import BinaryDiff.Text.Blank
import BinaryDiff.Text.Quoted
import BinaryDiff.Yaml.Failure

/-! # Finding the configuration file

A path that is given counts, else the one in the environment variable, else the first file of one of
four names in one of three directories. The first two are final: if there is no file at such a path
there is no configuration file at all. -/

namespace BinaryDiff

/-- Why there is no configuration. -/
inductive ConfigFailure
  /-- The settings are wrong. -/
  | invalid (problems : List Problem)
  /-- The file breaks the rules of YAML. -/
  | malformed
  /-- The file is not UTF-8. -/
  | undecodable
  /-- The file holds something other than a mapping. -/
  | notAMapping (path typeName : String)
  /-- A scalar of the file does not stand for a value of its type. -/
  | badScalar (fault : Yaml.ScalarFault)
  /-- A container of the file contains itself. -/
  | endless
  /-- There is no home directory of the kind that is meant. -/
  | noHome
  /-- The name of an account has a zero character in it. -/
  | zeroInAccount
  /-- The file system refuses a path for its length. -/
  | nameTooLong (path : String)
deriving DecidableEq, Repr

namespace ConfigFailure

/-- The name of the kind of failure. -/
def name : ConfigFailure → String
  | invalid _ => "ValidationError"
  | malformed => "YAMLError"
  | undecodable => "UnicodeDecodeError"
  | notAMapping .. => "ValueError"
  | badScalar fault => fault.name
  | endless => "RecursionError"
  | noHome => "RuntimeError"
  | zeroInAccount => "ValueError"
  | nameTooLong _ => "OSError"

/-- The text of the failure, where it has one of its own. -/
def text : ConfigFailure → Option String
  | invalid _ | malformed | undecodable => none
  | notAMapping path typeName =>
    some s!"Config file {path} must contain a mapping, got {typeName}"
  | badScalar fault => some fault.message
  | endless => some "maximum recursion depth exceeded"
  | noHome => some "Could not determine home directory."
  | zeroInAccount => some "embedded null byte"
  | nameTooLong path => some s!"[Errno 36] File name too long: {quoted path}"

end ConfigFailure

namespace ConfigSearch

/-- The environment variable that can hold the path of the configuration file. -/
def pathVariable : String := "VXSIG_CONFIG"

/-- The names that a configuration file can have. -/
def fileNames : List String := ["vxsig.yaml", "vxsig.yml", ".vxsig.yaml", ".vxsig.yml"]

/-- The directories where a configuration file can be. -/
def directories (around : Surroundings) : List Path :=
  [around.workingDirectory, around.homeDirectory.extend [".config", "vxsig"],
   around.homeDirectory]

/-- The places where a configuration file can be, in the order in which they are looked at. -/
def candidates (around : Surroundings) : List Path :=
  (directories around).flatMap fun directory =>
    fileNames.map fun name => directory.extend [name]

/-- The text of a home directory without the slashes at its end; where nothing is left, the root is
meant. -/
def withoutFinalSlashes (home : String) : String :=
  let kept := trimEnd (· == '/') home.toList
  if kept.isEmpty then "/" else String.ofList kept

/-- The home directory that a name beginning with a tilde stands for: that of the environment or
that of an account. -/
def home (around : Surroundings) (name : String) : Except ConfigFailure String :=
  if name = "~" then .ok ((around.environmentValue "HOME").getD around.homeDirectory.text)
  else if name.toList.contains (Char.ofNat 0) then .error .zeroInAccount
  else
    match around.accounts.find? fun account => "~" ++ account.1 == name with
    | some account => .ok account.2
    | none => .error .noHome

/-- A path with a tilde at its beginning replaced by the home directory that is meant, which must
not begin with a tilde itself. -/
def expandHome (around : Surroundings) (path : Path) : Except ConfigFailure Path :=
  match path.isAbsolute, path.parts with
  | false, first :: others =>
    if first.toList.head? = some '~' then do
      let home ← home around first
      if home.toList.head? = some '~' then throw .noHome
      else return (Path.ofText (withoutFinalSlashes home)).extend others
    else .ok path
  | _, _ => .ok path

/-- Whether there is a regular file at a path. -/
def isFile (around : Surroundings) (path : Path) : Except ConfigFailure Bool :=
  match around.lookup path with
  | .found (.file _) => .ok true
  | .found .directory | .missing => .ok false
  | .nameTooLong => .error (.nameTooLong path.text)

/-- The first of some paths at which there is a regular file. -/
def firstFile (around : Surroundings) : List Path → Except ConfigFailure (Option Path)
  | [] => .ok none
  | path :: paths => do
    if ← isFile around path then return some path else firstFile around paths

/-- The path that is to be used whatever else there is: the given one, or else that in the
environment unless it is empty. -/
def explicit (around : Surroundings) (given : Option Path) : Option Path :=
  match given with
  | some path => some path
  | none =>
    match around.environmentValue pathVariable with
    | some text => if text.isEmpty then none else some (Path.ofText text)
    | none => none

end ConfigSearch

/-- Finds the configuration file, if there is one. -/
def findConfig (around : Surroundings) (given : Option Path) :
    Except ConfigFailure (Option Path) := do
  match ConfigSearch.explicit around given with
  | some path =>
    let path ← ConfigSearch.expandHome around path
    if ← ConfigSearch.isFile around path then return some path else return none
  | none => ConfigSearch.firstFile around (ConfigSearch.candidates around)

end BinaryDiff
