import BinaryDiff.Files.FileTree

/-! # Hosts

Below the reader there are a file system, which may refuse to look at a path, and a database
library, which opens the database in a file and answers queries. What these do with a given file is
not up to the reader: a page may be damaged, so that the rows on it cannot be fetched, the name of a
column may not be UTF-8, and a directory may not be open to everybody. A host is any way in which
they may behave, and each of its errors may be of any kind. The plain one has no such surprises. -/

namespace BinaryDiff

/-- How the file system and the database library behave. -/
structure Host where
  /-- The error with which the file system refuses to look at a path, if it does. -/
  refusal : Path → Option ForeignError
  /-- The database in a file, or the error of opening it. -/
  read : Content → Except ForeignError Database
  /-- The rows that a query on a database yields, or the error that it is refused with. -/
  answer : Database → Query → Except ForeignError (List FetchedRow)

namespace Host

/-- The database in a file that is given by its tables. A file of at most one byte is an empty
database; other bytes are not taken for one. -/
def readPlain : Content → Except ForeignError Database
  | .database _ true => .error (.operational "database is locked")
  | .database data false => .ok data
  | .bytes [] | .bytes [_] => .ok ⟨[]⟩
  | .bytes _ => .error (.ofFile "file is not a database")

/-- The host that refuses no path and answers queries from the tables of a database. -/
def plain : Host where
  refusal _ := none
  read := readPlain
  answer database query := (database.answer query).mapError .operational

end Host
end BinaryDiff
