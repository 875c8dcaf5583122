import BinaryDiff.Yaml.Tag

/-! # The graph of a document

The nodes of a document are numbered, and collections refer to their parts by number. An alias is a
second reference to a node, and one from within the node itself makes a circle. -/

namespace BinaryDiff
namespace Yaml

/-- The number of a node. -/
abbrev NodeId := Nat

/-- What a node is written as. -/
inductive NodeContent
  | scalar (text : List Char)
  | sequence (items : List NodeId)
  | mapping (members : List (NodeId × NodeId))
deriving DecidableEq, Repr

/-- A node of a document. -/
structure Node where
  tag : Tag
  content : NodeContent
deriving DecidableEq, Repr

/-- The nodes of a document, in the order in which they begin. -/
structure Graph where
  nodes : Array Node
deriving Repr

namespace Graph

/-- The graph without nodes. -/
def empty : Graph := ⟨#[]⟩

/-- The number of nodes. -/
def size (graph : Graph) : Nat := graph.nodes.size

/-- Adds a node, whose number is the number of those before it. -/
def push (graph : Graph) (node : Node) : Graph := ⟨graph.nodes.push node⟩

/-- The type of a node. -/
def tag (graph : Graph) (id : NodeId) : Tag :=
  match graph.nodes[id]? with
  | some node => node.tag
  | none => .unknown

/-- What a node is written as. -/
def content (graph : Graph) (id : NodeId) : NodeContent :=
  match graph.nodes[id]? with
  | some node => node.content
  | none => .sequence []

/-- The members of a node, if it is a mapping. -/
def members? (graph : Graph) (id : NodeId) : Option (List (NodeId × NodeId)) :=
  match graph.content id with
  | .mapping members => some members
  | _ => none

/-- Changes a node. -/
def update (graph : Graph) (id : NodeId) (change : Node → Node) : Graph :=
  ⟨graph.nodes.modify id change⟩

/-- Gives a node another content. -/
def setContent (graph : Graph) (id : NodeId) (content : NodeContent) : Graph :=
  graph.update id fun node => { node with content := content }

/-- Gives a node another type. -/
def setTag (graph : Graph) (id : NodeId) (tag : Tag) : Graph :=
  graph.update id fun node => { node with tag := tag }

/-- The number of members of a node. -/
def memberCount : NodeContent → Nat
  | .mapping members => members.length
  | _ => 0

/-- The number of members of all mappings together. -/
def totalMembers (graph : Graph) : Nat :=
  graph.nodes.foldl (fun sum node => sum + memberCount node.content) 0

end Graph
end Yaml
end BinaryDiff
