import BinaryDiff.Text.Utf8
import BinaryDiff.Yaml.Spot
import BinaryDiff.Yaml.Token

/-! # Anchors, tags and directives

The parts of a document that are not its content: anchors and aliases, which have names, tags, which
have an optional handle, and the directives in front of a document. -/

namespace BinaryDiff
namespace Yaml

/-- Whether a character may come right after the name of an anchor. -/
def endsAnchor (c : Char) : Bool :=
  isGapOrEnd c || c == '?' || c == ':' || c == ',' || c == ']' || c == '}' || c == '%' || c == '@'
    || c == '\x60'

/-- The name of an anchor or alias after its indicator. -/
def readAnchor (spot : Spot) : Except YamlFailure (List Char × Spot) :=
  let (name, spot) := spot.step.run isNameChar
  if name.isEmpty || !endsAnchor spot.peek then .error .malformed else .ok (name, spot)

namespace TagText

/-- Whether a character can be in a tag. -/
def isTagChar (c : Char) : Bool :=
  c.isAlphanum || "-;/?:@&=+$,_.!~*'()[]".toList.contains c

/-- The byte of an escape after its percent sign. -/
def escapedByte (spot : Spot) : Except YamlFailure (UInt8 × Spot) :=
  match Hex.bytes (spot.step.rest.take 2) with
  | some [byte] => .ok (byte, spot.forward 3)
  | _ => .error .malformed

/-- The bytes of a run of escapes. -/
def escapedBytes : Nat → Spot → Except YamlFailure (List UInt8 × Spot)
  | 0, spot => .ok ([], spot)
  | fuel + 1, spot =>
    if spot.peek == '%' then do
      let (byte, spot) ← escapedByte spot
      let (bytes, spot) ← escapedBytes fuel spot
      return (byte :: bytes, spot)
    else .ok ([], spot)

/-- The characters of a tag, with its escapes decoded. -/
def chars : Nat → Spot → Except YamlFailure (List Char × Spot)
  | 0, spot => .ok ([], spot)
  | fuel + 1, spot => do
    let (text, spot) := spot.run isTagChar
    if spot.peek == '%' then
      let (bytes, spot) ← escapedBytes (fuel + 1) spot
      match Utf8.decode bytes with
      | none => .error .malformed
      | some decoded =>
        let (others, spot) ← chars fuel spot
        return (text ++ decoded ++ others, spot)
    else return (text, spot)

/-- The characters of a tag, of which there must be some. -/
def read (spot : Spot) : Except YamlFailure (List Char × Spot) := do
  let (text, spot) ← chars (spot.rest.length + 1) spot
  if text.isEmpty then .error .malformed else return (text, spot)

/-- The handle of a tag: one exclamation mark, or a word between two. -/
def handle (spot : Spot) : Except YamlFailure (List Char × Spot) :=
  if spot.peek != '!' then .error .malformed
  else if spot.ahead 1 == ' ' then .ok (['!'], spot.step)
  else
    let (word, after) := spot.step.run isNameChar
    if after.peek == '!' then .ok ('!' :: word ++ ['!'], after.step) else .error .malformed

/-- Whether a tag has a second exclamation mark and with it a handle of its own. -/
def hasHandle (spot : Spot) : Bool :=
  (spot.step.rest.takeWhile fun c => !isSpaceOrEnd c).contains '!'

end TagText

/-- The tag that begins here. -/
def readTag (spot : Spot) : Except YamlFailure (RawTag × Spot) := do
  let next := spot.ahead 1
  let (tag, spot) ←
    if next == '<' then do
      let (suffix, spot) ← TagText.read (spot.forward 2)
      if spot.peek == '>' then pure ((⟨none, suffix⟩ : RawTag), spot.step)
      else throw YamlFailure.malformed
    else if isGapOrEnd next then pure (⟨none, ['!']⟩, spot.step)
    else do
      let (handle, spot) ←
        if TagText.hasHandle spot then TagText.handle spot else pure (['!'], spot.step)
      let (suffix, spot) ← TagText.read spot
      pure (⟨some handle, suffix⟩, spot)
  if isSpaceOrEnd spot.peek then return (tag, spot) else throw .malformed

namespace DirectiveText

/-- A number in a version. -/
def number (spot : Spot) : Except YamlFailure (Nat × Spot) :=
  let (digits, spot) := spot.run Char.isDigit
  if digits.isEmpty then .error .malformed
  else if ScalarFault.mostDigits < digits.length then
    .error (.badScalar (.tooManyDigits digits.length))
  else .ok (digits.foldl (fun sum c => 10 * sum + (c.toNat - 48)) 0, spot)

/-- The version of the language. -/
def version (spot : Spot) : Except YamlFailure (Directive × Spot) := do
  let (major, spot) ← number spot.skipSpaces
  if spot.peek != '.' then throw .malformed
  let (minor, spot) ← number spot.step
  if isSpaceOrEnd spot.peek then return (.version major minor, spot) else throw .malformed

/-- A handle and the beginning of the tags that it abbreviates. -/
def tagHandle (spot : Spot) : Except YamlFailure (Directive × Spot) := do
  let (handle, spot) ← TagText.handle spot.skipSpaces
  if spot.peek != ' ' then throw .malformed
  let (start, spot) ← TagText.read spot.skipSpaces
  if isSpaceOrEnd spot.peek then return (.tagHandle handle start, spot) else throw .malformed

/-- What a directive of a given name says. -/
def content (name : List Char) (spot : Spot) : Except YamlFailure (Directive × Spot) :=
  if name == "YAML".toList then version spot
  else if name == "TAG".toList then tagHandle spot
  else .ok (.other, spot.skip fun c => !isLineEnd c)

end DirectiveText

/-- The directive that begins here, up to the end of its line. -/
def readDirective (spot : Spot) : Except YamlFailure (Directive × Spot) := do
  let (name, spot) := spot.step.run isNameChar
  if name.isEmpty || !isSpaceOrEnd spot.peek then throw .malformed
  let (directive, spot) ← DirectiveText.content name spot
  let spot ← spot.finishLine
  return (directive, spot)

end Yaml
end BinaryDiff
