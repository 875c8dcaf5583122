import BinaryDiff.Yaml.Graph.Reader
import BinaryDiff.Yaml.ScalarValue

/-! # From the graph to the document

Every node gets a value, the nearest to the root first: a scalar at once, a container empty at
first, to be filled after all containers that were begun before it. So of several faults the one
that is least deep shows. The members of a mapping are filled in their order, after those that it
takes over from other mappings by a merge key; of several members with equal keys the last one
counts. Merging changes the mappings themselves, which shows where an alias refers to them. -/

namespace BinaryDiff
namespace Yaml

/-- The value of a node, with its parts by their numbers. -/
inductive NodeValue
  | scalar (value : Scalar)
  | list (items : List NodeId)
  /-- An ordered list of keys with their values. -/
  | entries (pairs : List (NodeId × NodeId))
  | mapping (members : List (NodeId × NodeId))
  | set (items : List NodeId)
deriving Repr

/-- A document that is being built. -/
structure Building where
  graph : Graph
  /-- The values of the nodes that have one. -/
  values : Array (Option NodeValue)
  /-- The containers that have not been filled, the last first. -/
  waiting : List NodeId
deriving Repr

/-- A step of building a document. -/
abbrev Builder := StateT Building (Except YamlFailure)

namespace Building

/-- The beginning: no node has a value. -/
def start (graph : Graph) : Building :=
  ⟨graph, Array.replicate graph.size none, []⟩

/-- The value of a node, if it has one. -/
def value? (building : Building) (id : NodeId) : Option NodeValue :=
  (building.values[id]?).join

/-- Gives a node a value. -/
def setValue (building : Building) (id : NodeId) (value : NodeValue) : Building :=
  { building with values := building.values.setIfInBounds id (some value) }

/-- The scalar that a node stands for. -/
def scalar? (building : Building) (id : NodeId) : Option Scalar :=
  match building.value? id with
  | some (.scalar value) => some value
  | _ => none

/-- Whether a node is the plain name of what is not a number, which stands for one value however
often it is written. -/
def namesNan (building : Building) (id : NodeId) : Bool :=
  match building.graph.content id with
  | .scalar text => building.scalar? id == some (.real .notANumber) && ScalarValue.isNanName text
  | _ => false

/-- Whether two nodes are one key. -/
def sameKey (building : Building) (a b : NodeId) : Bool :=
  a == b || (building.namesNan a && building.namesNan b)
    || match building.scalar? a, building.scalar? b with
      | some a, some b => a.sameKey b
      | _, _ => false

/-- Adds a member to a mapping; one that has the key already gets the new value. -/
def insert (building : Building) (members : List (NodeId × NodeId)) (key value : NodeId) :
    List (NodeId × NodeId) :=
  if members.any fun member => building.sameKey member.1 key then
    members.map fun member =>
      if building.sameKey member.1 key then (member.1, value) else member
  else members ++ [(key, value)]

end Building

namespace Builder

/-- The document breaks the rules. -/
def malformed {α : Type} : Builder α := throw .malformed

/-! ### Merging -/

/-- The place of the first merge key among some members. -/
def mergePlace? (graph : Graph) (members : List (NodeId × NodeId)) : Option Nat :=
  members.findIdx? fun member => graph.tag member.1 == .merge

/-- A graph in which those of some nodes that are marks for values are texts. -/
def unmark (graph : Graph) (keys : List NodeId) : Graph :=
  keys.foldl (fun graph key => if graph.tag key == .value then graph.setTag key .str else graph)
    graph

mutual

/-- Replaces the merge keys of a mapping by the members that they stand for. -/
def flatten (id : NodeId) : Nat → Graph → Except YamlFailure Graph
  | 0, _ => .error .malformed
  | fuel + 1, graph => do
    let (graph, merged) ← takeOver id 0 [] fuel graph
    let own := (graph.members? id).getD []
    return if merged.isEmpty then graph else graph.setContent id (.mapping (merged ++ own))

/-- Collects what the merge keys of a mapping from a place on stand for, after what was collected
before. The keys go, and so do the marks for values that are passed. -/
def takeOver (id : NodeId) (place : Nat) (merged : List (NodeId × NodeId)) :
    Nat → Graph → Except YamlFailure (Graph × List (NodeId × NodeId))
  | 0, _ => .error .malformed
  | fuel + 1, graph => do
    let members := (graph.members? id).getD []
    match mergePlace? graph (members.drop place) with
    | none => return (unmark graph ((members.drop place).map Prod.fst), merged)
    | some distance =>
      let passed := ((members.drop place).take distance).map Prod.fst
      let place := place + distance
      let source := (members.getD place (0, 0)).2
      let graph := (unmark graph passed).setContent id (.mapping (members.eraseIdx place))
      match graph.content source with
      | .mapping _ =>
        let graph ← flatten source fuel graph
        takeOver id place (merged ++ (graph.members? source).getD []) fuel graph
      | .sequence items =>
        let (graph, parts) ← flattenAll items fuel graph
        takeOver id place (merged ++ parts.reverse.flatten) fuel graph
      | .scalar _ => throw .malformed

/-- The members of several mappings, from each of which the merge keys are removed first. -/
def flattenAll (items : List NodeId) :
    Nat → Graph → Except YamlFailure (Graph × List (List (NodeId × NodeId)))
  | 0, _ => .error .malformed
  | fuel + 1, graph =>
    match items with
    | [] => .ok (graph, [])
    | item :: items =>
      match graph.content item with
      | .mapping _ => do
        let graph ← flatten item fuel graph
        let members := (graph.members? item).getD []
        let (graph, others) ← flattenAll items fuel graph
        return (graph, members :: others)
      | _ => .error .malformed

end

/-! ### Scalars -/

/-- The text of a scalar. A mapping has one, too, if one of its keys says so; following such keys
must come to an end. -/
def scalarText (graph : Graph) : Nat → NodeId → Except YamlFailure (List Char)
  | 0, _ => .error (.badScalar .endless)
  | fuel + 1, id =>
    match graph.content id with
    | .scalar text => .ok text
    | .mapping members =>
      match members.find? fun member => graph.tag member.1 == .value with
      | some (_, value) => scalarText graph fuel value
      | none => .error .malformed
    | .sequence _ => .error .malformed

/-- The value of a scalar of some type. -/
def scalarValue (tag : Tag) (text : List Char) : Except YamlFailure Scalar :=
  match tag with
  | .null => .ok .null
  | .bool => ScalarValue.bool text
  | .int => ScalarValue.int text
  | .float => ScalarValue.float text
  | .binary => ScalarValue.binary text
  | .timestamp => ScalarValue.timestamp text
  | .str => .ok (.text (String.ofList text))
  | _ => .error .malformed

/-- The value of a node that stands for a scalar. A day or moment cannot be the value of a
mapping. -/
def scalarOf (graph : Graph) (id : NodeId) : Except YamlFailure Scalar := do
  let text ← scalarText graph (graph.size + 1) id
  if graph.tag id == .timestamp && (graph.members? id).isSome then
    throw (.badScalar .momentOfMapping)
  scalarValue (graph.tag id) text

/-! ### Containers -/

/-- Gives a node a value and puts it among the containers that wait. -/
def await (id : NodeId) (value : NodeValue) : Builder Unit :=
  modify fun building =>
    { building.setValue id value with waiting := id :: building.waiting }

/-- Builds the value of a node that has none; a container is left to wait. -/
def build (id : NodeId) : Builder Unit := do
  let building ← get
  if (building.value? id).isNone then
    match building.graph.tag id with
    | .seq => await id (.list [])
    | .omap | .pairs => await id (.entries [])
    | .map => await id (.mapping [])
    | .set => await id (.set [])
    | .merge | .value | .unknown => malformed
    | _ =>
      let scalar ← scalarOf building.graph id
      modify fun building => building.setValue id (.scalar scalar)

/-- The members of a mapping, after those that it takes over. Only scalars can be keys. -/
def members (id : NodeId) : Builder (List (NodeId × NodeId)) := do
  let building ← get
  if (building.graph.members? id).isNone then malformed
  let fuel := 8 * (building.graph.totalMembers + building.graph.size + 1)
  let graph ← flatten id fuel building.graph
  modify fun building => { building with graph := graph }
  ((graph.members? id).getD []).foldlM (fun members (key, value) => do
    build key
    if ((← get).scalar? key).isNone then malformed
    build value
    return (← get).insert members key value) []

/-- The only member of a mapping, as a key with its value. -/
def onlyMember (id : NodeId) : Builder (NodeId × NodeId) := do
  match (← get).graph.members? id with
  | some [(key, value)] =>
    build key
    build value
    return (key, value)
  | _ => malformed

/-- Fills a container. -/
def fill (id : NodeId) : Builder Unit := do
  let building ← get
  let value ← match building.graph.tag id with
    | .map => pure (.mapping (← members id))
    | .set => pure (.set ((← members id).map Prod.fst))
    | tag =>
      match building.graph.content id with
      | .sequence items =>
        if tag == .seq then do
          items.forM build
          pure (.list items)
        else pure (.entries (← items.mapM onlyMember))
      | _ => malformed
  modify fun building => building.setValue id value

/-- Fills the containers that wait, and those that come to wait meanwhile, and so on. -/
def fillAll : Nat → Builder Unit
  | 0 => return
  | fuel + 1 => do
    let waiting := (← get).waiting.reverse
    if !waiting.isEmpty then
      modify fun building => { building with waiting := [] }
      waiting.forM fill
      fillAll fuel

/-- Builds the values of all nodes that belong to a document. -/
def buildAll (root : NodeId) : Builder Unit := do
  build root
  fillAll ((← get).graph.size + 1)

end Builder

/-- The document that a node of a finished building stands for, given the nodes around it. -/
def Building.document (building : Building) (around : List NodeId) : Nat → NodeId → Document
  | 0, _ => .cycle
  | fuel + 1, id =>
    if around.contains id then .cycle
    else
      let part := building.document (id :: around) fuel
      let key := fun id => (building.scalar? id).getD .null
      match building.value? id with
      | none => .cycle
      | some (.scalar value) => .scalar value
      | some (.list items) => .list (items.map part)
      | some (.entries pairs) => .list (pairs.map fun pair => .entry (part pair.1) (part pair.2))
      | some (.mapping members) =>
        .mapping (members.map fun member => (key member.1, part member.2))
      | some (.set items) => .set (items.map key)

/-- The document in a text: none if the text holds nothing but comments. -/
def load (text : String) : Except YamlFailure (Option Document) := do
  match ← Graph.ofText text.toList with
  | (_, none) => return none
  | (graph, some root) =>
    let (_, building) ← (Builder.buildAll root).run (Building.start graph)
    return some (building.document [] (graph.size + 1) root)

end Yaml
end BinaryDiff
