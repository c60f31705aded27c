/-
**The graph of a YAML document.**

A node is a scalar, a list or a mapping, with a tag that says what it stands for. The nodes of a document
have numbers, by which lists and mappings hold them; so a node can stand at several places, also inside
itself.

* `Graph.node?` looks a node up, `Graph.scalarText` gives the text of a node that should be a scalar.
-/
import HostWatch.Yaml.Fault
import HostWatch.Yaml.Tag

namespace HostWatch.Yaml

abbrev NodeId := Nat

/-- What a node holds. -/
inductive Content where
  | scalar (text : List Text.Glyph)
  | list (items : List NodeId)
  | mapping (entries : List (NodeId × NodeId))

/-- A node. -/
structure Node where
  tag : Tag
  content : Content

/-- The nodes of a document. -/
structure Graph where
  /-- The nodes, in the order of their numbers. -/
  nodes : Array Node

namespace Graph

def empty : Graph := ⟨#[]⟩

def size (graph : Graph) : Nat := graph.nodes.size

def node? (graph : Graph) (id : NodeId) : Option Node := graph.nodes[id]?

def tagOf (graph : Graph) (id : NodeId) : Tag := ((graph.node? id).map Node.tag).getD .other

/-- The entries of a node that is a mapping. -/
def entries? (graph : Graph) (id : NodeId) : Option (List (NodeId × NodeId)) :=
  match (graph.node? id).map Node.content with
  | some (.mapping entries) => some entries
  | _ => none

def changeNode (graph : Graph) (id : NodeId) (change : Node → Node) : Graph :=
  ⟨graph.nodes.modify id change⟩

/-- The graph with the entries of a mapping changed. -/
def changeEntries (graph : Graph) (id : NodeId)
    (change : List (NodeId × NodeId) → List (NodeId × NodeId)) : Graph :=
  graph.changeNode id fun node =>
    match node.content with
    | .mapping entries => { node with content := .mapping (change entries) }
    | _ => node

/-! ### Scalars -/

/-- The text of a node that should be a scalar. For a mapping that has the key for its own value, this
value counts. -/
def scalarTextFrom (graph : Graph) : Nat → NodeId → Except Fault (List Text.Glyph)
  | 0, _ => .error .tooDeep
  | fuel + 1, id =>
    match (graph.node? id).map Node.content with
    | some (.scalar text) => .ok text
    | some (.mapping entries) =>
      match entries.find? fun entry => graph.tagOf entry.1 = .value with
      | some (_, value) => graph.scalarTextFrom fuel value
      | none => .error .malformed
    | _ => .error .malformed

/-- The text of a node that should be a scalar. -/
def scalarText (graph : Graph) (id : NodeId) : Except Fault (List Text.Glyph) :=
  graph.scalarTextFrom (graph.size + 1) id

end Graph

end HostWatch.Yaml
