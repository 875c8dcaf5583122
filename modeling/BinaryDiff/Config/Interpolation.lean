import BinaryDiff.Config.Document
import BinaryDiff.Text.Word

/-! # Environment variables in configuration values

A value may hold placeholders: a dollar sign and, between braces, the name of an environment
variable, perhaps followed by a colon and a default. A text is read from left to right into
literals and placeholders; wherever a placeholder can be read it is, and reading goes on behind it.
A placeholder gives way to the value of its variable, else to its default, else to nothing, and
what it gives way to is not looked at again. -/

namespace BinaryDiff

/-- A reference to an environment variable. -/
structure Placeholder where
  name : List Char
  /-- What to use if there is no such variable. -/
  fallback : Option (List Char)
deriving DecidableEq, Repr

namespace Placeholder

/-- The end of a placeholder after its name, and what follows it. -/
def readFallback : List Char → Option (Option (List Char) × List Char)
  | '}' :: rest => some (none, rest)
  | ':' :: rest =>
    match rest.dropWhile (· != '}') with
    | [] => none
    | _ :: after => some (some (rest.takeWhile (· != '}')), after)
  | _ => none

/-- The placeholder that a text begins with, and what follows it. -/
def read : List Char → Option (Placeholder × List Char)
  | '$' :: '{' :: rest =>
    let name := rest.takeWhile isWordChar
    if name.isEmpty then none
    else (readFallback (rest.dropWhile isWordChar)).map fun (fallback, after) =>
      (⟨name, fallback⟩, after)
  | _ => none

theorem readFallback_length {text after : List Char} {fallback : Option (List Char)}
    (h : readFallback text = some (fallback, after)) : after.length < text.length := by
  unfold readFallback at h
  split at h
  · cases h
    simp
  · rename_i rest
    split at h
    · cases h
    · rename_i head tail hdrop
      cases h
      have := (List.dropWhile_sublist (l := rest) (· != '}')).length_le
      rw [hdrop] at this
      simp only [List.length_cons] at this ⊢
      omega
  · cases h

theorem read_length {text after : List Char} {placeholder : Placeholder}
    (h : read text = some (placeholder, after)) : after.length < text.length := by
  unfold read at h
  split at h
  · rename_i rest
    dsimp only at h
    split at h
    · cases h
    · simp only [Option.map_eq_some_iff, Prod.mk.injEq, Prod.exists] at h
      obtain ⟨fallback, tail, hread, _, htail⟩ := h
      have hlt := readFallback_length hread
      have hle := (List.dropWhile_sublist (l := rest) isWordChar).length_le
      subst htail
      simp only [List.length_cons]
      omega
  · cases h

end Placeholder

/-- A part of a configuration text. -/
inductive TextPart
  | literal (c : Char)
  | placeholder (placeholder : Placeholder)
deriving DecidableEq, Repr

namespace Interpolation

/-- The parts of a text, from left to right. -/
def split (text : List Char) : List TextPart :=
  match text with
  | [] => []
  | c :: rest =>
    match _h : Placeholder.read (c :: rest) with
    | some (placeholder, after) => .placeholder placeholder :: split after
    | none => .literal c :: split rest
termination_by text.length
decreasing_by
  · exact Placeholder.read_length _h
  · simp

/-- The values of environment variables. -/
abbrev Environment := String → Option String

/-- What a part of a text stands for. -/
def value (environment : Environment) : TextPart → List Char
  | .literal c => [c]
  | .placeholder placeholder =>
    match environment (String.ofList placeholder.name) with
    | some text => text.toList
    | none => placeholder.fallback.getD []

/-- A text with its placeholders replaced. -/
def apply (environment : Environment) (text : String) : String :=
  String.ofList ((split text.toList).flatMap (value environment))

/-- A scalar with its placeholders replaced, if it is a text. -/
def applyScalar (environment : Environment) : Scalar → Scalar
  | .text text => .text (apply environment text)
  | scalar => scalar

mutual

/-- A document with the placeholders replaced in its texts. Keys stay as they are, and so does what
is inside sets and ordered pairs. -/
def walk (environment : Environment) : Document → Document
  | .scalar scalar => .scalar (applyScalar environment scalar)
  | .list items => .list (walkItems environment items)
  | .mapping members => .mapping (walkMembers environment members)
  | .entry key value => .entry key value
  | .set items => .set items
  | .cycle => .cycle

/-- The items of a list with their placeholders replaced. -/
def walkItems (environment : Environment) : List Document → List Document
  | [] => []
  | item :: items => walk environment item :: walkItems environment items

/-- The members of a mapping with the placeholders replaced in their values. -/
def walkMembers (environment : Environment) : List (Scalar × Document) → List (Scalar × Document)
  | [] => []
  | (key, value) :: members => (key, walk environment value) :: walkMembers environment members

end

mutual

/-- Whether a walk through a document would never end. -/
def endless : Document → Bool
  | .cycle => true
  | .list items => endlessItems items
  | .mapping members => endlessMembers members
  | _ => false

/-- Whether a walk through one of the items of a list would never end. -/
def endlessItems : List Document → Bool
  | [] => false
  | item :: items => endless item || endlessItems items

/-- Whether a walk through one of the members of a mapping would never end. -/
def endlessMembers : List (Scalar × Document) → Bool
  | [] => false
  | (_, value) :: members => endless value || endlessMembers members

end

end Interpolation
end BinaryDiff
