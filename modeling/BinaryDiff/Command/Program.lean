import BinaryDiff.Command.Inspect
import BinaryDiff.Command.Matches
import BinaryDiff.Config.Load
import BinaryDiff.Log.Setup

/-! # The program

The words of the command line are options of the program, the name of a command, and what belongs to
the command. Asking for help or the version ends the program at once. Otherwise the configuration is
loaded and the log set up before the words of the command are looked at. -/

namespace BinaryDiff

/-- An option in front of the command. -/
inductive ProgramOption
  | config (path : String)
  | verbose
  | version
  | help
deriving DecidableEq, Repr

/-- The commands. -/
inductive CommandName
  | inspect
  | listMatches
deriving DecidableEq, Repr

/-- What the words up to the name of the command say. -/
inductive Beginning
  | help
  | version
  /-- A command is to be carried out with a configuration file and verbosity, on further words. -/
  | command (config : Option String) (verbose : Bool) (name : CommandName) (words : List String)
deriving DecidableEq, Repr

/-- What the whole program comes to. -/
structure ProgramRun where
  /-- How the log was set up, if that was done. -/
  log : Option LogSetup
  run : Run

namespace Program

/-- The name of the program. -/
def name : String := "vxsig"

/-- The version of the program. -/
def version : String := "0.1.0"

/-- The spellings of the options in front of the command. -/
def options : OptionTable ProgramOption :=
  [("--config", .valued .config), ("-C", .valued .config), ("--verbose", .flag .verbose),
   ("-v", .flag .verbose), ("--version", .flag .version), ("-V", .flag .version),
   ("--help", .flag .help)]

/-- The help text. -/
def help : String := "Usage: vxsig [-C FILE] [-v] COMMAND [OPTIONS] DIFF_PATH

Commands:
  inspect  Count function, basic block and instruction matches.
  matches  Show the first matches of one granularity in storage order.
"

/-- The file that an option names. -/
def config? : ProgramOption → Option String
  | .config path => some path
  | _ => none

/-- What is asked for at once. -/
def immediate? : ProgramOption → Option Beginning
  | .help => some .help
  | .version => some .version
  | _ => none

/-- The first demand among some options that is met at once. -/
def firstImmediate? (options : List ProgramOption) : Option Beginning :=
  options.findSome? immediate?

/-- The command of a name. -/
def command? (name : String) : Option CommandName :=
  if name = "inspect" then some .inspect
  else if name = "matches" then some .listMatches
  else none

/-- What an unknown word in the place of the command comes to. One that looks like an option, which
is possible after two dashes, is read as one after all; it can still ask for help or the version. -/
def unknownCommand (words : List String) (name : String) : Except UsageError Beginning := do
  if name.toList.head? = some '-' then
    let arguments ← Arguments.read options false words
    match firstImmediate? arguments.options with
    | some demand => return demand
    | none => throw (.commandUnknown name)
  else throw (.commandUnknown name)

/-- What the words up to the name of the command say. -/
def beginning (words : List String) : Except UsageError Beginning := do
  let arguments ← Arguments.read options false words
  match firstImmediate? arguments.options with
  | some demand => return demand
  | none =>
    match arguments.operands with
    | [] => throw .commandMissing
    | name :: rest =>
      match command? name with
      | some command =>
        return .command (arguments.last? config?) (arguments.options.contains .verbose) command rest
      | none => unknownCommand (name :: rest) name

/-- The end with an exit status and some output. -/
def ended (code : Nat) (stdout : String) : Run := ⟨[], stdout, "", .status code⟩

/-- The exit status for a wrong command line. -/
def usageStatus : Nat := 2

/-- The end with a complaint about the command line. -/
def misused (error : UsageError) : Run :=
  ⟨[], "", "Usage error: " ++ error.message ++ "\n", .status usageStatus⟩

/-- Carries out a command on its words. -/
def runCommand (around : Surroundings) (reader : ReaderSettings) (console : Console)
    (name : CommandName) (words : List String) : Run :=
  match name with
  | .inspect =>
    match InspectRequest.read words with
    | .error error => misused error
    | .ok none => ended 0 help
    | .ok (some request) => request.run around reader console
  | .listMatches =>
    match MatchesRequest.read words with
    | .error error => misused error
    | .ok none => ended 0 help
    | .ok (some request) => request.run around reader console

/-- The end with a failure to load the configuration. -/
def withoutConfig (failure : ConfigFailure) : Run :=
  ⟨[], "", "", .unhandled failure.name (failure.text.getD "")⟩

/-- Carries out the program. -/
def run (around : Surroundings) (console : Console) (words : List String) : ProgramRun :=
  if words.isEmpty then ⟨none, ended usageStatus help⟩
  else
    match beginning words with
    | .error error => ⟨none, misused error⟩
    | .ok .help => ⟨none, ended 0 help⟩
    | .ok .version => ⟨none, ended 0 (name ++ " " ++ version ++ "\n")⟩
    | .ok (.command config verbose command rest) =>
      match loadConfig around (config.map Path.ofText) with
      | .error failure => ⟨none, withoutConfig failure⟩
      | .ok settings =>
        match LogSetup.make (settings.logging.levelFor verbose) settings.logging.json with
        | .error failure => ⟨none, .escaped [] failure⟩
        | .ok setup => ⟨some setup, runCommand around settings.reader console command rest⟩

/-- The paths of the files that the program may read, given its words. -/
def paths (around : Surroundings) (words : List String) : List Path :=
  match beginning words with
  | .ok (.command config _ name rest) =>
    let configPaths := match ConfigSearch.explicit around (config.map Path.ofText) with
      | some path => (ConfigSearch.expandHome around path).toOption.toList
      | none => ConfigSearch.candidates around
    let diffPath := match name with
      | .inspect => (InspectRequest.read rest).toOption.join.map InspectRequest.path
      | .listMatches => (MatchesRequest.read rest).toOption.join.map MatchesRequest.path
    configPaths ++ diffPath.toList
  | _ => []

end Program

namespace ProgramRun

/-- The records of the log, if it is written as JSON. -/
def records (outcome : ProgramRun) : List Json :=
  match outcome.log with
  | some setup => setup.records outcome.run.events
  | none => []

/-- The lines of the log, if it is written for the console. -/
def logLines (outcome : ProgramRun) : List String :=
  match outcome.log with
  | some setup => (setup.lines outcome.run.events).map fun line => s!"[{line.1.name}] {line.2}"
  | none => []

end ProgramRun
end BinaryDiff
