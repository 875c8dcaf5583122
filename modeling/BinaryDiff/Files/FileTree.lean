import BinaryDiff.Files.Database
import BinaryDiff.Files.Path
import BinaryDiff.Number.Natural

/-! # The file system

A file tree maps locations, which are lists of names from the root, to what stands there. Whatever
lies above an entry is a directory. Looking up a path walks down its names: `..` goes up again, a
name that is too long is an error of its own, and a name below something that is no directory leads
nowhere. There are no symbolic links, and every directory may be searched and every file be read by
everybody; what a file system may refuse beyond this is up to the host of a store. -/

namespace BinaryDiff

/-- The contents of a regular file: bytes, or a database that somebody else may hold locked. -/
inductive Content
  | bytes (data : List UInt8)
  | database (data : Database) (locked : Bool)
deriving DecidableEq, Repr

/-- What stands at a location. -/
inductive Entry
  | directory
  | file (content : Content)
deriving DecidableEq, Repr

/-- A location: names from the root. -/
abbrev Location := List String

/-- What a walk along a path comes to. -/
inductive Lookup
  | found (entry : Entry)
  | missing
  | nameTooLong
deriving DecidableEq, Repr

/-- A file system, by the entries that matter. -/
structure FileTree where
  entries : List (Location × Entry)
deriving DecidableEq, Repr

namespace FileTree

/-- The longest name, in bytes. -/
def longestName : Nat := 255

/-- The longest path, in bytes. -/
def longestPath : Nat := 4095

/-- What stands at a location: its own entry, or a directory if some entry lies below it. -/
def entryAt (tree : FileTree) (location : Location) : Option Entry :=
  match tree.entries.find? (·.1 == location) with
  | some (_, entry) => some entry
  | none =>
    if tree.entries.any fun entry => location.isPrefixOf entry.1 then some .directory else none

/-- The walk from a location along further names. -/
def walk (tree : FileTree) (location : Location) : List String → Lookup
  | [] =>
    match tree.entryAt location with
    | some entry => .found entry
    | none => .missing
  | name :: names =>
    if tree.entryAt location ≠ some .directory then .missing
    else if name = ".." then walk tree location.dropLast names
    else if longestName < name.utf8ByteSize then .nameTooLong
    else walk tree (location ++ [name]) names

end FileTree

/-- What a command finds around it: the file system, where it was started, and what the environment
says. -/
structure Surroundings where
  files : FileTree
  /-- The working directory. -/
  workingDirectory : Path
  /-- The user's home directory. -/
  homeDirectory : Path
  /-- The environment variables. -/
  environment : List (String × String)
  /-- The home directories of the accounts of the machine. -/
  accounts : List (String × String)
deriving Repr

namespace Surroundings

/-- The value of an environment variable. -/
def environmentValue (around : Surroundings) (name : String) : Option String :=
  (around.environment.find? (·.1 == name)).map Prod.snd

/-- The path from the root. -/
def absolute (around : Surroundings) (path : Path) : Path :=
  if path.isAbsolute then path else around.workingDirectory.extend path.parts

/-- What stands at a path. A path with a zero character leads nowhere. -/
def lookup (around : Surroundings) (path : Path) : Lookup :=
  if path.parts.any fun name => name.toList.contains (Char.ofNat 0) then .missing
  else if FileTree.longestPath < path.text.utf8ByteSize then .nameTooLong
  else around.files.walk [] (around.absolute path).parts

/-- The location of a path without its `..`. -/
def resolve (around : Surroundings) (path : Path) : Location :=
  (around.absolute path).parts.foldl
    (fun location name => if name = ".." then location.dropLast else location ++ [name]) []

/-- The length in bytes of the resolved path. -/
def resolvedSize (around : Surroundings) (path : Path) : Nat :=
  total ((around.resolve path).map fun name => name.utf8ByteSize + 1)

end Surroundings
end BinaryDiff
