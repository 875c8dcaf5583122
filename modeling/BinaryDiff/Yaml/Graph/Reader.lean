import BinaryDiff.Yaml.Graph
import BinaryDiff.Yaml.Token.Lexer

/-! # From text to the graph

The reader is a recursive-descent parser that builds the graph of a document. It takes its tokens
from the lexer one by one, and keeps the nodes that have anchors and the handles that abbreviate
tags. A collection gets its number before its parts are read, so that an alias among them can
refer to it. -/

namespace BinaryDiff
namespace Yaml

/-- The state of the reader. -/
structure ReaderState where
  lexer : Lexer
  graph : Graph
  /-- The anchors so far, with their nodes. -/
  anchors : List (List Char × NodeId)
  /-- The handles of tags, with what they stand for. -/
  handles : List (List Char × List Char)

/-- A step of the reader. -/
abbrev GraphReader := StateT ReaderState (Except YamlFailure)

namespace GraphReader

/-- The document breaks the rules. -/
def malformed {α : Type} : GraphReader α := throw .malformed

/-- The next token, which stays. -/
def peek : GraphReader (Option Token) := do
  let lexer ← (← get).lexer.ready
  modify fun state => { state with lexer := lexer }
  return lexer.tokens.head?

/-- Passes over the next token. -/
def drop : GraphReader Unit := modify fun state => { state with lexer := state.lexer.drop }

/-- Passes over a token if it is the given one. -/
def accept (token : Token) : GraphReader Bool := do
  if (← peek) = some token then
    drop
    return true
  else return false

/-- Whether one of the given tokens comes, or the end. -/
def atAny (tokens : List Token) : GraphReader Bool := do
  match ← peek with
  | some token => return tokens.contains token
  | none => return false

/-- The handles that need no directive. -/
def standardHandles : List (List Char × List Char) :=
  [(['!'], ['!']), (['!', '!'], Tag.commonStart)]

/-- What stands in front of a node: its anchor and its tag, in either order. -/
structure Properties where
  anchor : Option (List Char)
  tag : Option (List Char)
deriving DecidableEq, Repr

/-- A tag written out in full. -/
def expand (tag : RawTag) : GraphReader (List Char) := do
  match tag.handle with
  | none => return tag.suffix
  | some handle =>
    match (← get).handles.find? (·.1 == handle) with
    | some (_, start) => return start ++ tag.suffix
    | none => malformed

/-- The anchor that may come. -/
def anchor : GraphReader (Option (List Char)) := do
  match ← peek with
  | some (.anchor name) =>
    drop
    return some name
  | _ => return none

/-- The tag that may come, as it is written. -/
def tag : GraphReader (Option RawTag) := do
  match ← peek with
  | some (.tag raw) =>
    drop
    return some raw
  | _ => return none

/-- The anchor and tag that may come. -/
def properties : GraphReader Properties := do
  match ← anchor with
  | some name => return ⟨some name, ← (← tag).mapM expand⟩
  | none =>
    let tag ← tag
    let name ← anchor
    return ⟨name, ← tag.mapM expand⟩

/-- Whether a tag leaves the type open. -/
def isOpen (tag : Option (List Char)) : Bool := tag == none || tag == some ['!']

/-- The type of a collection: what its tag says, or else the usual one. -/
def collectionTag (tag : Option (List Char)) (usual : Tag) : Tag :=
  if isOpen tag then usual else Tag.ofText (tag.getD [])

/-- The type of a scalar: what its tag says, or else what its pattern says if it is plain. -/
def scalarTag (tag : Option (List Char)) (plain : Bool) (text : List Char) : Tag :=
  match tag with
  | none => if plain then Implicit.resolve text else .str
  | some tag => if tag == ['!'] then Implicit.resolve text else Tag.ofText tag

/-- Begins a node: its anchor, which must be new, is known from now on. -/
def begin (anchor : Option (List Char)) (node : Node) : GraphReader NodeId := do
  let state ← get
  let id := state.graph.size
  let anchors ← match anchor with
    | none => pure state.anchors
    | some name =>
      if state.anchors.any (·.1 == name) then malformed else pure ((name, id) :: state.anchors)
  set { state with graph := state.graph.push node, anchors := anchors }
  return id

/-- Gives a node its content. -/
def complete (id : NodeId) (content : NodeContent) : GraphReader NodeId := do
  modify fun state => { state with graph := state.graph.setContent id content }
  return id

/-- A node that nothing is written for. -/
def empty : GraphReader NodeId := begin none ⟨Implicit.resolve [], .scalar []⟩

/-- The node that an alias names. -/
def named (name : List Char) : GraphReader NodeId := do
  match (← get).anchors.find? (·.1 == name) with
  | some (_, id) => return id
  | none => malformed

/-- A node of which only the properties are written. -/
def blank (properties : Properties) : GraphReader NodeId :=
  if properties.anchor.isNone && properties.tag.isNone then malformed
  else begin properties.anchor ⟨scalarTag properties.tag (isOpen properties.tag) [], .scalar []⟩

mutual

/-- A node. In a block, block collections are possible; where `bare` says so, a block sequence may
be indented no further than its parent. -/
def node (block bare : Bool) : Nat → GraphReader NodeId
  | 0 => malformed
  | fuel + 1 => do
    if let some (.alias name) ← peek then
      drop
      return (← named name)
    let properties ← properties
    content block bare properties fuel

/-- The content of a node with some properties. -/
def content (block bare : Bool) (properties : Properties) : Nat → GraphReader NodeId
  | 0 => malformed
  | fuel + 1 => do
    let sequence := begin properties.anchor ⟨collectionTag properties.tag .seq, .sequence []⟩
    let mapping := begin properties.anchor ⟨collectionTag properties.tag .map, .mapping []⟩
    match ← peek with
    | some .blockEntry =>
      if bare then
        let id ← sequence
        complete id (.sequence (← bareEntries fuel))
      else blank properties
    | some (.scalar text plain) =>
      drop
      begin properties.anchor ⟨scalarTag properties.tag plain text, .scalar text⟩
    | some .flowSequenceStart =>
      let id ← sequence
      drop
      complete id (.sequence (← flowItems true fuel))
    | some .flowMappingStart =>
      let id ← mapping
      drop
      complete id (.mapping (← flowMembers true fuel))
    | some .blockSequenceStart =>
      if block then
        let id ← sequence
        drop
        complete id (.sequence (← blockItems fuel))
      else blank properties
    | some .blockMappingStart =>
      if block then
        let id ← mapping
        drop
        complete id (.mapping (← blockMembers fuel))
      else blank properties
    | _ => blank properties

/-- The entries of a block sequence up to its end. -/
def blockItems : Nat → GraphReader (List NodeId)
  | 0 => malformed
  | fuel + 1 => do
    if ← accept .blockEntry then
      let item ←
        if ← atAny [.blockEntry, .blockEnd] then empty else node true false fuel
      return item :: (← blockItems fuel)
    else if ← accept .blockEnd then return []
    else malformed

/-- The entries of a block sequence that has no indentation of its own. -/
def bareEntries : Nat → GraphReader (List NodeId)
  | 0 => malformed
  | fuel + 1 => do
    if ← accept .blockEntry then
      let item ←
        if ← atAny [.blockEntry, .key, .value, .blockEnd] then empty
        else node true false fuel
      return item :: (← bareEntries fuel)
    else return []

/-- A key or value of a block mapping after its indicator. -/
def blockPart : Nat → GraphReader NodeId
  | 0 => malformed
  | fuel + 1 => do
    if ← atAny [.key, .value, .blockEnd] then empty else node true true fuel

/-- The members of a block mapping up to its end. -/
def blockMembers : Nat → GraphReader (List (NodeId × NodeId))
  | 0 => malformed
  | fuel + 1 => do
    if ← accept .key then
      let key ← blockPart fuel
      let value ← if ← accept .value then blockPart fuel else empty
      return (key, value) :: (← blockMembers fuel)
    else if ← accept .blockEnd then return []
    else malformed

/-- The comma in front of an entry that is not the first. -/
def comma (first : Bool) : GraphReader Unit := do
  if first then return
  else if ← accept .flowEntry then return
  else malformed

/-- A key or value in brackets after its indicator. -/
def flowPart (endToken : Token) : Nat → GraphReader NodeId
  | 0 => malformed
  | fuel + 1 => do
    if ← atAny [.flowEntry, endToken] then empty else node false false fuel

/-- The value in brackets that may come. -/
def flowValue (endToken : Token) : Nat → GraphReader NodeId
  | 0 => malformed
  | fuel + 1 => do
    if ← accept .value then flowPart endToken fuel else empty

/-- The key in brackets after its indicator; a colon may follow at once. -/
def flowKey (endToken : Token) : Nat → GraphReader NodeId
  | 0 => malformed
  | fuel + 1 => do
    if ← atAny [.value] then empty else flowPart endToken fuel

/-- The entries of a sequence in brackets up to the closing one. An entry with a colon is a mapping
with one member. -/
def flowItems (first : Bool) : Nat → GraphReader (List NodeId)
  | 0 => malformed
  | fuel + 1 => do
    if ← accept .flowSequenceEnd then return []
    comma first
    if ← accept .key then
      let id ← begin none ⟨.map, .mapping []⟩
      let key ← flowKey .flowSequenceEnd fuel
      let value ← flowValue .flowSequenceEnd fuel
      let pair ← complete id (.mapping [(key, value)])
      return pair :: (← flowItems false fuel)
    else if ← accept .flowSequenceEnd then return []
    else
      let item ← node false false fuel
      return item :: (← flowItems false fuel)

/-- The members of a mapping in brackets up to the closing one. A member without a colon has no
value. -/
def flowMembers (first : Bool) : Nat → GraphReader (List (NodeId × NodeId))
  | 0 => malformed
  | fuel + 1 => do
    if ← accept .flowMappingEnd then return []
    comma first
    if ← accept .key then
      let key ← flowKey .flowMappingEnd fuel
      let value ← flowValue .flowMappingEnd fuel
      return (key, value) :: (← flowMembers false fuel)
    else if ← accept .flowMappingEnd then return []
    else
      let key ← node false false fuel
      let value ← empty
      return (key, value) :: (← flowMembers false fuel)

end

/-- Passes over the markers at the end of a document. -/
def documentEnds : Nat → GraphReader Unit
  | 0 => return
  | fuel + 1 => do
    if ← accept .documentEnd then documentEnds fuel else return

/-- Reads the directives in front of a document; `versioned` tells that one of them was about the
version. -/
def directives (versioned : Bool) : Nat → GraphReader Unit
  | 0 => malformed
  | fuel + 1 => do
    match ← peek with
    | some (.directive (.version major _)) =>
      drop
      if versioned || major != 1 then malformed else directives true fuel
    | some (.directive (.tagHandle handle start)) =>
      drop
      if (← get).handles.any (·.1 == handle) then malformed
      else
        modify fun state => { state with handles := (handle, start) :: state.handles }
        directives versioned fuel
    | some (.directive .other) =>
      drop
      directives versioned fuel
    | _ => return

/-- The root of a document that begins with a marker, perhaps after directives. -/
def explicitDocument (fuel : Nat) : GraphReader NodeId := do
  directives false fuel
  modify fun state => { state with handles := state.handles ++ standardHandles }
  if ← accept .documentStart then
    match ← peek with
    | none | some (.directive _) | some .documentStart | some .documentEnd => empty
    | _ => node true false fuel
  else malformed

/-- The root of the document, if there is one. -/
def document (fuel : Nat) : GraphReader (Option NodeId) := do
  match ← peek with
  | none => return none
  | some (.directive _) | some .documentStart => return some (← explicitDocument fuel)
  | some _ =>
    modify fun state => { state with handles := standardHandles }
    return some (← node true false fuel)

/-- The end of the text, after which there must be nothing but markers; directives are read before
they are refused. -/
def finish (fuel : Nat) : GraphReader Unit := do
  documentEnds fuel
  if (← peek).isSome then
    modify fun state => { state with handles := [] }
    directives false fuel
    malformed

/-- The root of the only document in a text. -/
def single (fuel : Nat) : GraphReader (Option NodeId) := do
  let root ← document fuel
  finish fuel
  return root

end GraphReader

/-- The graph of the document in a text, and its root, if there is one. -/
def Graph.ofText (text : List Char) : Except YamlFailure (Graph × Option NodeId) := do
  let lexer ← Lexer.ofText text
  let (root, state) ← (GraphReader.single (16 * (text.length + 4))).run ⟨lexer, .empty, [], []⟩
  return (state.graph, root)

end Yaml
end BinaryDiff
