import BinaryDiff.Command.Program
import BinaryDiff.Display.Action.Mistake
import BinaryDiff.Files.Dump
import BinaryDiff.Json.Print
import BinaryDiff.Json.Read

/-! # The command line

Reads what the program may need to know from the system, carries it out, and prints what it comes
to. A database is read from its dump. -/

namespace BinaryDiff
namespace System

/-- The fields of a line, at colons. -/
def fields (line : List Char) : List String :=
  (piecesBy (· == ':') line).map String.ofList

/-- The account on a line of the list of accounts, with its home directory. -/
def account? (line : List Char) : Option (String × String) :=
  match fields line with
  | [name, _, _, _, _, home, _] => some (name, home)
  | _ => none

/-- The name and the value in an entry of the environment. -/
def binding (entry : List Char) : String × String :=
  (String.ofList (entry.takeWhile (· != '=')),
    String.ofList ((entry.dropWhile (· != '=')).drop 1))

/-- The content of a file: a database if the file is a dump of one. -/
def content (data : List UInt8) : Content :=
  match (Utf8.text? data).bind Json.parse with
  | some (.obj members) => .database (Dump.database (.obj members)) false
  | _ => .bytes data

/-- The characters in a file of the system; none if it cannot be read. -/
def readChars (path : String) : IO (List Char) := do
  try
    let data ← IO.FS.readBinFile path
    return (Utf8.decode data.toList).getD []
  catch _ => return []

/-- The directories that a path leads through. -/
def parents (around : Surroundings) (path : Path) : List (Location × Entry) :=
  (List.range path.parts.length).map fun count =>
    (around.resolve { path with parts := path.parts.take count }, .directory)

/-- The entries of the file tree for the regular file at a path, if there is one. -/
def readEntries (around : Surroundings) (path : Path) : IO (List (Location × Entry)) := do
  try
    let data ← IO.FS.readBinFile path.text
    return (around.resolve path, .file (content data.toList)) :: parents around path
  catch _ => return []

/-- What is known before any file was looked for. -/
def readSurroundings : IO Surroundings := do
  let environment := (piecesBy (· == Char.ofNat 0) (← readChars "/proc/self/environ")).map binding
  let accounts := (piecesBy (· == '\n') (← readChars "/etc/passwd")).filterMap account?
  let cwd ← IO.currentDir
  let home := (← IO.getEnv "HOME").getD "/"
  return ⟨⟨[]⟩, Path.ofText (toString cwd), Path.ofText home, environment, accounts⟩

/-- What the program finds around it. -/
def surroundings (words : List String) : IO Surroundings := do
  let around ← readSurroundings
  let entries ← (Program.paths around words).mapM (readEntries around)
  return { around with files := ⟨entries.flatten⟩ }

/-- The width of a console of which nothing is known. -/
def usualWidth : Nat := 80

/-- The console that the environment tells of. -/
def console (around : Surroundings) : Console :=
  ⟨((around.environmentValue "COLUMNS").bind String.toNat?).getD usualWidth, Action.readLiteral⟩

/-- What the program writes beside its output. -/
def sideOutput (outcome : ProgramRun) : String :=
  let log := outcome.records.map Json.compact ++ outcome.logLines
  let failure := match outcome.run.ending with
    | .unhandled name text => [name ++ ": " ++ text]
    | .status _ => []
  String.join (log.map (· ++ "\n")) ++ outcome.run.stderr ++ String.join (failure.map (· ++ "\n"))

end System
end BinaryDiff

/-- Carries out the program on the words of the command line. -/
def main (words : List String) : IO UInt32 := do
  let around ← BinaryDiff.System.surroundings words
  let outcome := BinaryDiff.Program.run around (BinaryDiff.System.console around) words
  (← IO.getStderr).putStr (BinaryDiff.System.sideOutput outcome)
  (← IO.getStdout).putStr outcome.run.stdout
  return UInt32.ofNat outcome.run.ending.exitCode
