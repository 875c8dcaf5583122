import BinaryDiff.Display.Console
import BinaryDiff.Text.Blank
import BinaryDiff.Text.Quoted
import BinaryDiff.Text.Word

/-! # Actions

A tag whose name begins with `@` attaches an action to a text. What is said after its equals sign is
the name of the action with arguments between brackets, or else arguments alone. They are looked at
when the tag is closed. -/

namespace BinaryDiff
namespace Action

/-- A call of an action that cannot be understood. -/
structure BadCall where
  /-- The call as it was written. -/
  written : List Char
  /-- The arguments in it. -/
  arguments : List Char
  fault : LiteralFault
deriving DecidableEq, Repr

/-- What is wrong with a call, in words. -/
def BadCall.message (call : BadCall) : String :=
  let written := quoted (String.ofList call.written)
  match call.fault with
  | .misspelt reason =>
    let arguments := quoted (String.ofList call.arguments)
    s!"error parsing {arguments} in {written}; {reason}"
  | .worthless reason => s!"error parsing {written}; {reason}"

/-- The arguments in a call: what stands between brackets behind a name, no arguments behind a name
alone, and otherwise everything. -/
def argumentsOf (call : List Char) : List Char :=
  match call.dropWhile fun c => isWordChar c || c == '.' with
  | [] => "()".toList
  | '(' :: rest =>
    if rest.getLast? == some ')' && !rest.contains '\n' then '(' :: rest else call
  | _ => call

/-- Makes sure that the arguments of a call are a literal. -/
def check (console : Console) (written : List Char) : Except BadCall Unit :=
  let arguments := argumentsOf (strip written)
  match console.literal arguments with
  | .ok () => .ok ()
  | .error fault => .error ⟨written, arguments, fault⟩

end Action
end BinaryDiff
