import BinaryDiff.Files.Path
import BinaryDiff.Text.Quoted

/-! # Arguments

The words of a command line are options and operands. An option is written as a word of two dashes
or as a letter behind one dash; several letters may share a dash. Some options take a value: behind
an equals sign, as the rest of a group of letters, or as the next word, whatever that looks like.
After a word of two dashes alone there are only operands.

What an option means is up to the command: a spelling stands for a meaning, or for one that depends
on its value. -/

namespace BinaryDiff

/-- What is wrong with a command line. -/
inductive UsageError
  | unknownOption (word : String)
  /-- An option at the end of the line needs a value. -/
  | valueMissing (word : String)
  /-- A value was given to an option that takes none. -/
  | valueUnwanted (word : String)
  | badValue (option value : String)
  | operandMissing
  | operandUnexpected (word : String)
  /-- The path of a file has a zero character in it. -/
  | zeroInPath (word : String)
  | commandMissing
  | commandUnknown (name : String)
deriving DecidableEq, Repr

/-- A wrong command line in words. -/
def UsageError.message : UsageError → String
  | unknownOption word => s!"no such option: {quoted word}"
  | valueMissing word => s!"option {quoted word} needs a value"
  | valueUnwanted word => s!"option {quoted word} takes no value"
  | badValue option value => s!"option {quoted option} cannot be {quoted value}"
  | operandMissing => "the path of a diff result is missing"
  | operandUnexpected word => s!"unexpected argument: {quoted word}"
  | zeroInPath word => s!"a path cannot hold a zero character: {quoted word}"
  | commandMissing => "the name of a command is missing"
  | commandUnknown name => s!"no such command: {quoted name}"

/-- What a spelling of an option stands for. -/
inductive OptionForm (α : Type)
  | flag (meaning : α)
  | valued (meaning : String → α)

/-- The spellings of the options of a command, dashes included. -/
abbrev OptionTable (α : Type) := List (String × OptionForm α)

namespace OptionTable

/-- What a spelling stands for. -/
def form? {α : Type} (table : OptionTable α) (spelling : List Char) : Option (OptionForm α) :=
  (table.find? fun entry => entry.1.toList == spelling).map Prod.snd

end OptionTable

/-- The options and operands of a command line, each in their order. -/
structure Arguments (α : Type) where
  options : List α
  operands : List String
deriving DecidableEq, Repr

namespace Arguments

/-- The options of one word, and what the last of them would do with the next word if it needs
it. -/
structure WordOptions (α : Type) where
  complete : List α
  needy : Option (String → α)

namespace WordOptions

/-- Puts an option in front. -/
def cons {α : Type} (option : α) (word : WordOptions α) : WordOptions α :=
  { word with complete := option :: word.complete }

end WordOptions

/-- Whether a word consists of options. -/
def isOptionWord (word : String) : Bool :=
  match word.toList with
  | '-' :: _ :: _ => true
  | _ => false

/-- Whether a spelling is a letter behind one dash. -/
def isShort (spelling : List Char) : Bool := spelling.length = 2

/-- The options of the letters behind one dash. -/
def readLetters {α : Type} (table : OptionTable α) : List Char → Except UsageError (WordOptions α)
  | [] => .ok ⟨[], none⟩
  | letter :: letters =>
    match table.form? ['-', letter] with
    | none => .error (.unknownOption (String.ofList ['-', letter]))
    | some (.flag meaning) => (readLetters table letters).map (WordOptions.cons meaning)
    | some (.valued meaning) =>
      if letters.isEmpty then .ok ⟨[], some meaning⟩
      else .ok ⟨[meaning (String.ofList letters)], none⟩

/-- The option of a whole word, if its spelling up to the first equals sign is a long one. -/
def readLong? {α : Type} (table : OptionTable α) (word : List Char) :
    Option (Except UsageError (WordOptions α)) :=
  let spelling := word.takeWhile (· != '=')
  if isShort spelling then none
  else
    match table.form? spelling, word.dropWhile (· != '=') with
    | none, _ => none
    | some (.flag meaning), [] => some (.ok ⟨[meaning], none⟩)
    | some (.flag _), _ :: _ => some (.error (.valueUnwanted (String.ofList spelling)))
    | some (.valued meaning), [] => some (.ok ⟨[], some meaning⟩)
    | some (.valued meaning), _ :: value =>
      some (.ok ⟨[meaning (String.ofList value)], none⟩)

/-- The options of a word. -/
def readWord {α : Type} (table : OptionTable α) (word : String) :
    Except UsageError (WordOptions α) :=
  match readLong? table word.toList with
  | some outcome => outcome
  | none =>
    match word.toList with
    | '-' :: '-' :: _ => .error (.unknownOption word)
    | _ :: letters => readLetters table letters
    | [] => .error (.unknownOption word)

/-- Puts options in front. -/
def withOptions {α : Type} (options : List α) (arguments : Arguments α) : Arguments α :=
  { arguments with options := options ++ arguments.options }

/-- Puts an operand in front. -/
def withOperand {α : Type} (word : String) (arguments : Arguments α) : Arguments α :=
  { arguments with operands := word :: arguments.operands }

/-- Takes a command line apart. Unless `mixed` holds, everything after the first operand is an
operand. -/
def read {α : Type} (table : OptionTable α) (mixed : Bool) :
    List String → Except UsageError (Arguments α)
  | [] => .ok ⟨[], []⟩
  | word :: words =>
    if word = "--" then .ok ⟨[], words⟩
    else if isOptionWord word then
      match readWord table word with
      | .error error => .error error
      | .ok ⟨complete, none⟩ => (read table mixed words).map (withOptions complete)
      | .ok ⟨complete, some meaning⟩ =>
        match words with
        | [] => .error (.valueMissing word)
        | value :: words =>
          (read table mixed words).map (withOptions (complete ++ [meaning value]))
    else if mixed then (read table mixed words).map (withOperand word)
    else .ok ⟨[], word :: words⟩

/-- The one operand that a command takes, the path of a file. -/
def path {α : Type} (arguments : Arguments α) : Except UsageError Path :=
  match arguments.operands with
  | [] => .error .operandMissing
  | word :: others =>
    if word.toList.contains (Char.ofNat 0) then .error (.zeroInPath word)
    else match others with
      | [] => .ok (Path.ofText word)
      | other :: _ => .error (.operandUnexpected other)

/-- What the last of the options with a meaning of some kind says. -/
def last? {α β : Type} (arguments : Arguments α) (meaning : α → Option β) : Option β :=
  (arguments.options.filterMap meaning).getLast?

end Arguments
end BinaryDiff
