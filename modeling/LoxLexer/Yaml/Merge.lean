import LoxLexer.Yaml.Graph

/-!
# Merge keys

The value under a merge key is a mapping, or a sequence of mappings, whose entries are taken over by the
mapping with the merge key. `Graph.resolveMerges` puts these entries in front of the others and removes
the merge key. It changes the graph itself, so that a mapping whose merge keys have been resolved has
none wherever else it is met, even while the merge keys of a mapping around it are being resolved.
-/

namespace LoxLexer.Yaml.Graph

/-- The node with a number. -/
def find (graph : Graph) (number : Nat) : Node := graph.nodes.getD number default

/-- The type of the node with a number. -/
def tag (graph : Graph) (number : Nat) : Tag := (graph.find number).tag

/-- What the node with a number holds. -/
def content (graph : Graph) (number : Nat) : Content := (graph.find number).content

/-- The entries of a mapping. No other node has any. -/
def entries (graph : Graph) (number : Nat) : List (Nat × Nat) :=
  match graph.content number with
  | .mapping entries => entries
  | _ => []

/-- Whether the node with a number is a mapping. -/
def isMapping (graph : Graph) (number : Nat) : Bool :=
  match graph.content number with
  | .mapping _ => true
  | _ => false

/-- The number of entries of all mappings. -/
def entryCount (graph : Graph) : Nat :=
  graph.nodes.foldl
    (fun count node =>
      match node.content with
      | .mapping entries => count + entries.length
      | _ => count)
    0

/-- Gives a node another type. -/
def setTag (number : Nat) (tag : Tag) (graph : Graph) : Graph :=
  { graph with nodes := graph.nodes.setIfInBounds number ⟨tag, graph.content number⟩ }

/-- Gives a mapping other entries. -/
def setEntries (number : Nat) (entries : List (Nat × Nat)) (graph : Graph) : Graph :=
  { graph with nodes := graph.nodes.setIfInBounds number ⟨graph.tag number, .mapping entries⟩ }

/-- Makes the value keys of a mapping ordinary texts. -/
def plainKeys (number : Nat) (graph : Graph) : Graph :=
  (graph.entries number).foldl
    (fun graph entry => if graph.tag entry.1 = .value then graph.setTag entry.1 .text else graph)
    graph

/-- The mappings that a merge key with a value takes entries from, in order. -/
def mergeSources (graph : Graph) (value : Nat) : List Nat :=
  match graph.content value with
  | .sequence items => items
  | _ => [value]

/-- Whether the key of an entry is a merge key. -/
def isMerge (graph : Graph) (entry : Nat × Nat) : Bool := graph.tag entry.1 = .merge

end Graph

/-- A part of the resolution of merge keys. -/
abbrev Merging := StateT Graph (Except Fault)

namespace Merging

/-- Removes the first merge key of a mapping. The answer is the value under it. -/
def removeMerge? (number : Nat) : Merging (Option Nat) := do
  let graph ← get
  let entries := graph.entries number
  match entries.find? graph.isMerge with
  | some entry =>
      set (graph.setEntries number (entries.eraseP graph.isMerge))
      return some entry.2
  | none => return none

/-- Resolves the merge keys of a mapping, and first those of the mappings that it takes entries from.
What comes from an earlier merge key goes in front of what comes from a later one, but of several
mappings under one merge key the last one goes first. Every call but the last one on each mapping
removes a merge key, and none is ever added, which bounds the calls inside of each other. -/
def resolve : Nat → Nat → Merging Unit
  | 0, _ => throw .malformed
  | fuel + 1, number => do
      modify (Graph.plainKeys number)
      let some value ← removeMerge? number | return
      let taken ← ((← get).mergeSources value).mapM fun source => do
        if !(← get).isMapping source then throw .malformed
        resolve fuel source
        return (← get).entries source
      resolve fuel number
      modify fun graph => graph.setEntries number (taken.reverse.flatten ++ graph.entries number)

end Merging

/-- The graph in which a mapping has the entries that its merge keys take over, given a bound on the
number of all merge keys. -/
def Graph.resolveMerges (bound number : Nat) (graph : Graph) : Except Fault Graph := do
  let (_, resolved) ← (Merging.resolve (bound + 1) number).run graph
  return resolved

end LoxLexer.Yaml
