import LoxLexer.Yaml.Merge
import LoxLexer.Yaml.ScalarValue

/-!
# Documents

The value of a document. Scalars are given their values, and mappings take over the entries of the
mappings that are merged into them. Collections are checked in the order in which they are met, each
one after all that were met before it, and the first fault found in this order is the one that is
reported.
-/

namespace LoxLexer.Yaml

/-- The value of a document. -/
inductive Document where
  /-- A mapping, by its entries. -/
  | mapping (entries : Entries)
  /-- Anything else. -/
  | other (value : Value)
  deriving DecidableEq

/-- The valuation of a graph. -/
structure Valuation where
  /-- The graph, in which merge keys are resolved as their mappings are expanded. -/
  graph : Graph
  /-- A bound on the number of merge keys. -/
  mergeBound : Nat
  /-- The values found so far, by the numbers of their nodes. -/
  values : Array (Option Value)
  /-- The collections met so far, in order. -/
  met : Array Nat

/-- A part of the valuation of a graph. -/
abbrev Valuate := StateT Valuation (Except Fault)

/-- The text of a scalar. A mapping stands for the scalar under its value key. No path of such keys is
longer than there are nodes, unless a mapping stands for itself. -/
def Graph.scalarText (graph : Graph) : Nat → Nat → Except Fault CodeText
  | 0, _ => .error .endlessText
  | fuel + 1, number =>
      match graph.content number with
      | .scalar text => .ok text
      | .sequence _ => .error .malformed
      | .mapping entries =>
          match entries.find? fun entry => graph.tag entry.1 = .value with
          | some entry => scalarText graph fuel entry.2
          | none => .error .malformed

namespace Valuate

/-- The type of the node with a number. -/
def tag (number : Nat) : Valuate Tag := return (← get).graph.tag number

/-- What the node with a number holds. -/
def content (number : Nat) : Valuate Content := return (← get).graph.content number

/-- The kind of collection that a type asks for. -/
def collection? : Tag → Option Collection
  | .sequence => some .sequence
  | .pairs => some .sequence
  | .mapping => some .mapping
  | .set => some .set
  | _ => none

/-- The value of a node of the type of scalars. -/
def scalar (number : Nat) (tag : Tag) : Valuate Value := do
  if [.unknown, .merge, .value].contains tag then throw .malformed
  let graph := (← get).graph
  let text ← graph.scalarText (graph.nodes.size + 1) number
  if tag = .timestamp && graph.isMapping number then throw .timestampOfMapping
  ScalarValue.ofTag tag number text

/-- The value of a node. What a collection holds is left for later. -/
def node (number : Nat) : Valuate Value := do
  if let some (some value) := (← get).values[number]? then return value
  let tag ← tag number
  let value ← match collection? tag with
    | some kind =>
        modify fun state => { state with met := state.met.push number }
        pure (Value.collection kind)
    | none => scalar number tag
  modify fun state => { state with values := state.values.setIfInBounds number (some value) }
  return value

/-- The value of a key of a mapping. -/
def key (number : Nat) : Valuate Value := do
  let value ← node number
  if value.canBeKey then return value
  throw .malformed

/-- Resolves the merge keys of a mapping. -/
def resolveMerges (number : Nat) : Valuate Unit := do
  let state ← get
  let graph ← state.graph.resolveMerges state.mergeBound number
  set { state with graph := graph }

/-- The entries of a mapping or the keys of a set. -/
def entries (number : Nat) : Valuate Entries := do
  if !(← get).graph.isMapping number then throw .malformed
  resolveMerges number
  ((← get).graph.entries number).foldlM
    (fun known entry => do
      let key ← key entry.1
      return known.insert key (← node entry.2))
    []

/-- Gives values to the nodes that a sequence holds. -/
def items (number : Nat) : Valuate Unit := do
  let .sequence items ← content number | throw .malformed
  items.forM fun item => do let _ ← node item

/-- Gives values to the keys and values of a sequence of mappings with one entry each. -/
def pairs (number : Nat) : Valuate Unit := do
  let .sequence items ← content number | throw .malformed
  items.forM fun item => do
    let .mapping [entry] ← content item | throw .malformed
    let _ ← node entry.1
    let _ ← node entry.2

/-- Gives values to what a collection holds. The answer is empty unless it is a mapping. -/
def expand (number : Nat) : Valuate Entries := do
  match ← tag number with
  | .sequence => items number; return []
  | .pairs => pairs number; return []
  | _ => entries number

/-- Expands the collections that have been met, from one of them on. Each node is met at most once, so
there are no more of them than nodes. -/
def expandFrom (position : Nat) : Nat → Valuate Unit
  | 0 => return
  | fuel + 1 => do
      let some number := (← get).met[position]? | return
      let _ ← expand number
      expandFrom (position + 1) fuel

/-- The value of the document. -/
def document : Valuate Document := do
  let graph := (← get).graph
  let value ← node graph.root
  if (← get).met.isEmpty then return .other value
  let entries ← expand graph.root
  expandFrom 1 graph.nodes.size
  return if value = .collection .mapping then .mapping entries else .other value

end Valuate

/-- The value of the document that a text holds. A text without a document holds the absence of a
value. -/
def Document.ofText (text : List Char) : Except Fault Document := do
  match ← Graph.ofSymbols (Symbol.ofText text) with
  | none => return .other .null
  | some graph =>
      let start : Valuation :=
        ⟨graph, graph.entryCount, Array.replicate graph.nodes.size none, #[]⟩
      let (document, _) ← Valuate.document.run start
      return document

end LoxLexer.Yaml
