/-
**Mappings merged into mappings.**

A key of a mapping may say that its value is to be merged in: the entries of a mapping, or of all mappings
of a list, come in front of the other entries of the mapping. There the mappings are in the reverse order
of the list. So, as the last entry of a key counts, a mapping keeps its own value for a key, and of the
mappings of a list the first one that has a key gives it. Before a mapping is merged in, what it asks for
is merged into it.

* `Graph.flatten` merges into a mapping what its entries say. It runs no deeper than `Graph.mergeDepth`.
-/
import HostWatch.Yaml.Graph.Basic

namespace HostWatch.Yaml.Graph

/-- A computation that changes the nodes of a graph. -/
abbrev Merging := StateT Graph (Except Fault)

/-- Whether an entry says what is to be merged into its mapping. -/
def isMerge (graph : Graph) (entry : NodeId × NodeId) : Bool := graph.tagOf entry.1 = .merge

/-- How deep mappings can be merged into each other: each time one of the entries that say so goes. -/
def mergeDepth (graph : Graph) : Nat :=
  let mergesOf (id : NodeId) : Nat := (((graph.entries? id).getD []).filter graph.isMerge).length
  3 * ((List.range graph.size).map mergesOf).foldr (· + ·) 0 + 1

/-- Takes the first entry that says what is to be merged out of a mapping. -/
def takeMerge (id : NodeId) : Merging (Option NodeId) := do
  let graph ← get
  let entries := (graph.entries? id).getD []
  match entries.find? graph.isMerge with
  | none => return none
  | some (_, source) =>
    set (graph.changeEntries id (·.eraseP graph.isMerge))
    return some source

/-- Makes the keys of a mapping for its own value count as texts. -/
def settle (id : NodeId) : Merging Unit := do
  for (key, _) in ((← get).entries? id).getD [] do
    modify fun graph => graph.changeNode key fun node =>
      if node.tag = .value then { node with tag := .text } else node

mutual

/-- Merges into a mapping what its entries say, in front of its other entries. -/
def flatten : Nat → NodeId → Merging Unit
  | 0, _ => throw .malformed
  | fuel + 1, id => do
    match ← takeMerge id with
    | none => settle id
    | some source =>
      let merged ← mergedOf fuel source
      flatten fuel id
      modify fun graph => graph.changeEntries id (merged ++ ·)

/-- The entries to be merged from a mapping, or from the mappings of a list, those of the last one first. -/
def mergedOf : Nat → NodeId → Merging (List (NodeId × NodeId))
  | 0, _ => throw .malformed
  | fuel + 1, source => do
    match ((← get).node? source).map Node.content with
    | some (.list items) => return (← items.mapM (flattened fuel)).reverse.flatten
    | _ => flattened fuel source

/-- The entries of a mapping into which all has been merged. -/
def flattened : Nat → NodeId → Merging (List (NodeId × NodeId))
  | 0, _ => throw .malformed
  | fuel + 1, id => do
    if ((← get).entries? id).isNone then throw .malformed
    flatten fuel id
    return ((← get).entries? id).getD []

end

end HostWatch.Yaml.Graph
