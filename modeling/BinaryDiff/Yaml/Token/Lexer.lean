import BinaryDiff.Yaml.Token.Name
import BinaryDiff.Yaml.Token.Scalar

/-! # The lexer

The lexer turns a document into tokens. Two things make this more than cutting it into words.
Indentation opens and closes block collections, for which tokens are made up. And whether something
is a key shows only at the colon after it: so the lexer remembers, for each level of nested
brackets, where a key could have begun, and when the colon comes it puts the tokens of a key there
after the fact. A key has to be on one line with its colon and must not be longer than 1024
characters. Tokens are made on demand: one is ready to be taken as soon as no key can begin with
it, so that what is wrong further on in a document shows only after what is wrong before. -/

namespace BinaryDiff
namespace Yaml

/-- The place where a key could have begun. -/
structure PossibleKey where
  /-- The number of tokens before it. -/
  position : Nat
  /-- Whether there has to be a key, because of the indentation. -/
  required : Bool
  index : Nat
  line : Nat
  column : Nat
deriving DecidableEq, Repr

/-- The state of the lexer. -/
structure Lexer where
  spot : Spot
  /-- The tokens that have been made and not been taken. -/
  tokens : List Token
  /-- The number of tokens that have been taken. -/
  taken : Nat
  /-- Whether the document has ended. -/
  ended : Bool
  /-- The number of open brackets. -/
  flowLevel : Nat
  /-- The indentation of the current block; `-1` outside of all. -/
  indent : Int
  /-- The indentations of the blocks around it, innermost first. -/
  outerIndents : List Int
  /-- Whether a key may begin here. -/
  keyAllowed : Bool
  /-- The place of a possible key at each level of brackets. -/
  keys : List (Nat × PossibleKey)
deriving Repr

namespace Lexer

/-- The lexer at the beginning of a document. -/
def start (text : List Char) : Lexer :=
  ⟨Spot.start text, [], 0, false, 0, -1, [], true, []⟩

/-- The longest key. -/
def longestKey : Nat := 1024

/-- Whether the lexer is inside brackets. -/
def inFlow (lexer : Lexer) : Bool := lexer.flowLevel != 0

/-- Adds a token. -/
def emit (lexer : Lexer) (token : Token) : Lexer :=
  { lexer with tokens := lexer.tokens ++ [token] }

/-- Adds a token after a number of others, those that have been taken among them. -/
def insertAt (lexer : Lexer) (position : Nat) (token : Token) : Lexer :=
  let place := position - lexer.taken
  { lexer with tokens := lexer.tokens.take place ++ token :: lexer.tokens.drop place }

/-- Moves on. -/
def moveTo (lexer : Lexer) (spot : Spot) : Lexer := { lexer with spot := spot }

/-- Allows a key to begin next, or not. -/
def allowKey (lexer : Lexer) (allowed : Bool) : Lexer :=
  { lexer with keyAllowed := allowed }

/-! ### Possible keys -/

/-- Whether a place is too far back for a key that begins there to have its colon here. -/
def isStale (lexer : Lexer) (key : PossibleKey) : Bool :=
  key.line != lexer.spot.line || longestKey < lexer.spot.index - key.index

/-- Forgets the places that are too far back; a required key must not be among them. -/
def dropStale (lexer : Lexer) : Except YamlFailure Lexer :=
  if lexer.keys.any fun entry => lexer.isStale entry.2 && entry.2.required then
    .error .malformed
  else .ok { lexer with keys := lexer.keys.filter fun entry => !lexer.isStale entry.2 }

/-- The possible key at the current level of brackets. -/
def key? (lexer : Lexer) : Option PossibleKey :=
  (lexer.keys.find? (·.1 == lexer.flowLevel)).map Prod.snd

/-- Forgets the possible key at the current level, without asking. -/
def forgetKey (lexer : Lexer) : Lexer :=
  { lexer with keys := lexer.keys.filter (·.1 != lexer.flowLevel) }

/-- Forgets the possible key at the current level, which must not be a required one. -/
def dropKey (lexer : Lexer) : Except YamlFailure Lexer :=
  match lexer.key? with
  | some key => if key.required then .error .malformed else .ok lexer.forgetKey
  | none => .ok lexer

/-- Remembers this place as one where a key could begin, if one is allowed. -/
def saveKey (lexer : Lexer) : Except YamlFailure Lexer :=
  if lexer.keyAllowed then do
    let dropped ← lexer.dropKey
    let spot := lexer.spot
    let required := !lexer.inFlow && lexer.indent == (spot.column : Int)
    let key : PossibleKey :=
      ⟨lexer.taken + lexer.tokens.length, required, spot.index, spot.line, spot.column⟩
    return { dropped with keys := (lexer.flowLevel, key) :: dropped.keys }
  else .ok lexer

/-! ### Indentation -/

/-- The blocks that end when the indentation goes back to a column: how many they are, and the
indentations that remain. -/
def endedBlocks (column : Int) : Int → List Int → Nat × Int × List Int
  | indent, [] => if column < indent then (1, -1, []) else (0, indent, [])
  | indent, outer :: others =>
    if column < indent then
      let (count, indent, outer) := endedBlocks column outer others
      (count + 1, indent, outer)
    else (0, indent, outer :: others)

/-- Ends the blocks that are indented further than a column. Inside brackets indentation has no
meaning. -/
def unwind (lexer : Lexer) (column : Int) : Lexer :=
  if lexer.inFlow then lexer
  else
    let (count, indent, outer) := endedBlocks column lexer.indent lexer.outerIndents
    { lexer with
      tokens := lexer.tokens ++ List.replicate count .blockEnd
      indent := indent
      outerIndents := outer }

/-- Whether a column is further in than the current block. -/
def deepens (lexer : Lexer) (column : Nat) : Bool :=
  lexer.indent < (column : Int)

/-- Begins a block at a column. -/
def deepen (lexer : Lexer) (column : Nat) : Lexer :=
  { lexer with indent := column, outerIndents := lexer.indent :: lexer.outerIndents }

/-! ### From one token to the next -/

/-- Passes over spaces, comments and line ends. A key may begin after a line end outside of
brackets. -/
def skipBlank : Nat → Lexer → Lexer
  | 0, lexer => lexer
  | fuel + 1, lexer =>
    let spot := lexer.spot.skipSpaces.skipComment
    match spot.lineBreak with
    | ([], spot) => lexer.moveTo spot
    | (_, spot) =>
      skipBlank fuel ((lexer.moveTo spot).allowKey (lexer.keyAllowed || !lexer.inFlow))

/-- Passes over a byte order mark at the beginning of the document. -/
def skipMark (lexer : Lexer) : Lexer :=
  if lexer.spot.index == 0 && lexer.spot.peek == '\uFEFF' then
    lexer.moveTo lexer.spot.step
  else lexer

/-- Adds the token of an indicator. -/
def indicator (lexer : Lexer) (token : Token) : Lexer :=
  (lexer.emit token).moveTo lexer.spot.step

/-- The marker that begins or ends a document. -/
def documentMarker (lexer : Lexer) (token : Token) : Except YamlFailure Lexer := do
  let lexer ← (lexer.unwind (-1)).dropKey
  return ((lexer.allowKey false).emit token).moveTo (lexer.spot.forward 3)

/-- A directive. -/
def directive (lexer : Lexer) : Except YamlFailure Lexer := do
  let lexer ← (lexer.unwind (-1)).dropKey
  let (directive, spot) ← readDirective lexer.spot
  return ((lexer.allowKey false).emit (.directive directive)).moveTo spot

/-- An opening bracket. -/
def openFlow (lexer : Lexer) (token : Token) : Except YamlFailure Lexer := do
  let lexer ← lexer.saveKey
  return { (lexer.allowKey true).indicator token with flowLevel := lexer.flowLevel + 1 }

/-- A closing bracket, for which there has to be an open one. -/
def closeFlow (lexer : Lexer) (token : Token) : Except YamlFailure Lexer := do
  if lexer.flowLevel == 0 then throw .malformed
  let lexer ← lexer.dropKey
  return { (lexer.allowKey false).indicator token with flowLevel := lexer.flowLevel - 1 }

/-- The comma between entries in brackets. -/
def flowEntry (lexer : Lexer) : Except YamlFailure Lexer := do
  let lexer ← (lexer.allowKey true).dropKey
  return lexer.indicator .flowEntry

/-- Makes sure that a block collection may have an entry here, and begins one if the indentation
says so. -/
def enterBlock (lexer : Lexer) (token : Token) : Except YamlFailure Lexer :=
  if lexer.inFlow then .ok lexer
  else if !lexer.keyAllowed then .error .malformed
  else if lexer.deepens lexer.spot.column then
    .ok ((lexer.deepen lexer.spot.column).emit token)
  else .ok lexer

/-- The hyphen in front of an entry of a block sequence. -/
def blockEntry (lexer : Lexer) : Except YamlFailure Lexer := do
  let lexer ← lexer.enterBlock .blockSequenceStart
  let lexer ← (lexer.allowKey true).dropKey
  return lexer.indicator .blockEntry

/-- The question mark in front of a key. -/
def explicitKey (lexer : Lexer) : Except YamlFailure Lexer := do
  let lexer ← lexer.enterBlock .blockMappingStart
  let lexer ← (lexer.allowKey !lexer.inFlow).dropKey
  return lexer.indicator .key

/-- The colon in front of a value. If a key can have begun before it, the tokens of the key are put
there. -/
def value (lexer : Lexer) : Except YamlFailure Lexer :=
  match lexer.key? with
  | some key =>
    let lexer := lexer.forgetKey.insertAt key.position .key
    let lexer :=
      if !lexer.inFlow && lexer.deepens key.column then
        (lexer.deepen key.column).insertAt key.position .blockMappingStart
      else lexer
    .ok ((lexer.allowKey false).indicator .value)
  | none => do
    let lexer ← lexer.enterBlock .blockMappingStart
    let lexer ← (lexer.allowKey !lexer.inFlow).dropKey
    return lexer.indicator .value

/-- An alias. -/
def aliasName (lexer : Lexer) : Except YamlFailure Lexer := do
  let lexer ← lexer.saveKey
  let (name, spot) ← readAnchor lexer.spot
  return ((lexer.allowKey false).emit (.alias name)).moveTo spot

/-- An anchor. -/
def anchor (lexer : Lexer) : Except YamlFailure Lexer := do
  let lexer ← lexer.saveKey
  let (name, spot) ← readAnchor lexer.spot
  return ((lexer.allowKey false).emit (.anchor name)).moveTo spot

/-- A tag. -/
def tag (lexer : Lexer) : Except YamlFailure Lexer := do
  let lexer ← lexer.saveKey
  let (tag, spot) ← readTag lexer.spot
  return ((lexer.allowKey false).emit (.tag tag)).moveTo spot

/-- A block scalar. -/
def blockScalar (lexer : Lexer) : Except YamlFailure Lexer := do
  let lexer ← (lexer.allowKey true).dropKey
  let (text, spot) ← Block.read lexer.indent lexer.spot
  return (lexer.emit (.scalar text false)).moveTo spot

/-- A quoted scalar. -/
def quotedScalar (lexer : Lexer) : Except YamlFailure Lexer := do
  let lexer ← lexer.saveKey
  let (text, spot) ← Quoted.read lexer.spot
  return ((lexer.allowKey false).emit (.scalar text false)).moveTo spot

/-- A plain scalar; a key may begin after it if it ends with a line. -/
def plainScalar (lexer : Lexer) : Except YamlFailure Lexer := do
  let lexer ← lexer.saveKey
  let (text, spot, lineEnded) := Plain.read lexer.inFlow lexer.indent lexer.spot
  return ((lexer.allowKey lineEnded).emit (.scalar text true)).moveTo spot

/-- The characters that a plain scalar cannot begin with, at least not in front of white space. -/
def indicators : List Char := "-?:,[]{}#&*!|>'\"%@`".toList

/-- Whether a plain scalar begins here. -/
def atPlain (lexer : Lexer) : Bool :=
  let c := lexer.spot.peek
  !(isGapOrEnd c || indicators.contains c)
    || (!isGapOrEnd (lexer.spot.ahead 1)
      && (c == '-' || (!lexer.inFlow && (c == '?' || c == ':'))))

/-- Whether an indicator stands alone here, which inside brackets it always does. -/
def atAlone (lexer : Lexer) : Bool :=
  lexer.inFlow || isGapOrEnd (lexer.spot.ahead 1)

/-- The next token, of which the first character comes. -/
def token (lexer : Lexer) : Except YamlFailure Lexer :=
  let spot := lexer.spot
  let atStart := spot.column == 0
  match spot.peek with
  | '[' => lexer.openFlow .flowSequenceStart
  | '{' => lexer.openFlow .flowMappingStart
  | ']' => lexer.closeFlow .flowSequenceEnd
  | '}' => lexer.closeFlow .flowMappingEnd
  | ',' => lexer.flowEntry
  | '*' => lexer.aliasName
  | '&' => lexer.anchor
  | '!' => lexer.tag
  | '\'' => lexer.quotedScalar
  | '"' => lexer.quotedScalar
  | c =>
    if c == '%' && atStart then lexer.directive
    else if atStart && spot.hasMarker '-' then lexer.documentMarker .documentStart
    else if atStart && spot.hasMarker '.' then lexer.documentMarker .documentEnd
    else if c == '-' && isGapOrEnd (spot.ahead 1) then lexer.blockEntry
    else if c == '?' && lexer.atAlone then lexer.explicitKey
    else if c == ':' && lexer.atAlone then lexer.value
    else if (c == '|' || c == '>') && !lexer.inFlow then lexer.blockScalar
    else if lexer.atPlain then lexer.plainScalar
    else .error .malformed

/-- The end of the document: all blocks end. -/
def finish (lexer : Lexer) : Except YamlFailure Lexer := do
  let lexer ← (lexer.unwind (-1)).dropKey
  return { lexer.allowKey false with keys := [], ended := true }

/-- Makes further tokens, of which one is not due to a change of the indentation. -/
def advance (lexer : Lexer) : Except YamlFailure Lexer := do
  let lexer := lexer.skipMark
  let lexer ← (lexer.skipBlank (lexer.spot.rest.length + 1)).dropStale
  let lexer := lexer.unwind lexer.spot.column
  if lexer.spot.peek == endMark then lexer.finish else lexer.token

/-- Whether a key may still begin with the first token. -/
def firstMayBeKey (lexer : Lexer) : Bool :=
  lexer.keys.any (·.2.position == lexer.taken)

/-- Makes tokens until the first can be taken or the document has ended. -/
def prepare : Nat → Lexer → Except YamlFailure Lexer
  | 0, _ => .error .malformed
  | fuel + 1, lexer =>
    if lexer.ended then .ok lexer
    else if lexer.tokens.isEmpty then do prepare fuel (← lexer.advance)
    else do
      let lexer ← lexer.dropStale
      if lexer.firstMayBeKey then prepare fuel (← lexer.advance) else return lexer

/-- The lexer with its first token ready; there is none at the end of the document. -/
def ready (lexer : Lexer) : Except YamlFailure Lexer :=
  lexer.prepare (lexer.spot.rest.length + 3)

/-- Takes the first token. -/
def drop (lexer : Lexer) : Lexer :=
  { lexer with tokens := lexer.tokens.drop 1, taken := lexer.taken + 1 }

end Lexer

/-- Whether a character may be in a document at all. -/
def isPrintable (c : Char) : Bool :=
  let code := c.toNat
  c == '\t' || c == '\n' || c == '\r' || (0x20 ≤ code && code ≤ 0x7E) || code == 0x85
    || (0xA0 ≤ code && code ≤ 0xD7FF) || (0xE000 ≤ code && code ≤ 0xFFFD) || 0x10000 ≤ code

/-- The lexer at the beginning of a document that holds no forbidden character. -/
def Lexer.ofText (text : List Char) : Except YamlFailure Lexer :=
  if text.all isPrintable then .ok (Lexer.start text) else .error .malformed

end Yaml
end BinaryDiff
