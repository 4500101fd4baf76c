import LoxLexer.Yaml.Layout
import LoxLexer.Yaml.Tag

/-!
# The graph of a document

A document is a graph of nodes: scalars, sequences and mappings, each with a tag. An alias stands for
the node that its anchor names, so that a node can be reached in several ways, and even from within
itself. `Graph.ofSymbols` builds the graph of the one document that a sequence of symbols holds.
-/

namespace LoxLexer.Yaml

/-- What a node holds; nodes are referred to by their numbers. -/
inductive Content where
  /-- The text of a scalar. -/
  | scalar (text : CodeText)
  /-- The nodes of a sequence. -/
  | sequence (items : List Nat)
  /-- The keys and values of a mapping. -/
  | mapping (entries : List (Nat × Nat))
  deriving DecidableEq, Inhabited

/-- A node of a document. -/
structure Node where
  /-- The type of the node. -/
  tag : Tag
  /-- What it holds. -/
  content : Content
  deriving DecidableEq, Inhabited

/-- The graph of a document. -/
structure Graph where
  /-- The nodes, by their numbers. -/
  nodes : Array Node
  /-- The number of the node that is the document. -/
  root : Nat

/-- The building of a graph. -/
structure Builder where
  /-- The symbols that are still to be read. -/
  symbols : List Symbol
  /-- The nodes so far. -/
  nodes : Array Node
  /-- The nodes that have a name. -/
  anchors : List (String × Nat)

/-- A part of the building of a graph. -/
abbrev Build := StateT Builder (Except Fault)

namespace Build

/-- The next symbol. If the reading of symbols stops there, this fails for the same reason. -/
def peek : Build (Option Symbol) := do
  match (← get).symbols.head? with
  | some (.unreadable fault) => throw fault
  | next? => return next?

/-- Moves past the next symbol. -/
def skip : Build Unit := modify fun builder => { builder with symbols := builder.symbols.tail }

/-- Moves past the next symbol if it is a given one, and says whether it was. -/
def accept (symbol : Symbol) : Build Bool := do
  if (← peek) = some symbol then
    skip
    return true
  return false

/-- Whether the next symbol is one of some, or there is no next symbol. -/
def ahead (symbols : List Symbol) : Build Bool := do
  match ← peek with
  | some symbol => return symbols.contains symbol
  | none => return true

/-- Fails at a symbol that cannot stand here. -/
def unexpected {α : Type} : Build α := throw .malformed

/-- Adds a node. -/
def add (tag : Tag) (content : Content) : Build Nat :=
  modifyGet fun builder =>
    (builder.nodes.size, { builder with nodes := builder.nodes.push ⟨tag, content⟩ })

/-- Adds a scalar without text. -/
def addEmpty : Build Nat := add .null (.scalar [])

/-- Gives a node its content. -/
def fill (number : Nat) (tag : Tag) (content : Content) : Build Nat := do
  modify fun builder =>
    { builder with nodes := builder.nodes.setIfInBounds number ⟨tag, content⟩ }
  return number

/-- Gives a node its name, if it has one. No two nodes can have the same name. -/
def nameNode (anchor? : Option String) (number : Nat) : Build Unit := do
  let some anchor := anchor? | return
  if ((← get).anchors.lookup anchor).isSome then throw .malformed
  modify fun builder => { builder with anchors := (anchor, number) :: builder.anchors }

/-- The node with a name. -/
def named (anchor : String) : Build Nat := do
  match (← get).anchors.lookup anchor with
  | some number => return number
  | none => throw .malformed

/-- Reads an anchor, if there is one. -/
def anchor? : Build (Option String) := do
  match ← peek with
  | some (.anchor name) => skip; return some name
  | _ => return none

/-- Reads a written tag, if there is one. -/
def tag? : Build (Option WrittenTag) := do
  match ← peek with
  | some (.tag written) => skip; return some written
  | _ => return none

/-- The full name of a written tag. Its handle must be known. -/
def tagName (handles : List (String × String)) (written : WrittenTag) : Build String :=
  match written.handle with
  | none => return written.rest
  | some handle =>
      match handles.lookup handle with
      | some start => return start ++ written.rest
      | none => throw .malformed

/-- The anchor and the tag in front of a node, in either order. -/
def properties (handles : List (String × String)) : Build (Option String × Option String) := do
  let before ← anchor?
  let written ← tag?
  let anchor ← if before.isNone && written.isSome then anchor? else pure before
  match written with
  | some written => return (anchor, some (← tagName handles written))
  | none => return (anchor, none)

/-- The tag of a scalar. A tag that is an exclamation mark leaves the type open, and so does no tag at
all in front of a plain scalar. -/
def scalarTag (name? : Option String) (text : CodeText) (plain : Bool) : Tag :=
  let shown : Tag := ((CodeText.chars? text).map Tag.ofPlain).getD .text
  match name? with
  | some name => if name = "!" then shown else Tag.ofName name
  | none => if plain then shown else .text

/-- The tag of a collection that has a usual type. -/
def collectionTag (usual : Tag) : Option String → Tag
  | some name => if name = "!" then usual else Tag.ofName name
  | none => usual

end Build

open Build

/-! Each of the following functions may be called as often as its first argument says. Every second
call moves past a symbol, so twice the number of symbols is enough. -/

mutual

/-- Builds a node. Outside of brackets it may be a block collection, and as a part of a block mapping
it may be a sequence that is not indented further. -/
def Graph.node (fuel : Nat) (handles : List (String × String)) (block indentless : Bool) :
    Build Nat :=
  match fuel with
  | 0 => throw .malformed
  | fuel + 1 => do
      match ← peek with
      | some (.alias name) => skip; named name
      | _ =>
          let (anchor, tag) ← properties handles
          let collection (usual : Tag) (read : Build Content) : Build Nat := do
            let tag := collectionTag usual tag
            let number ← add tag (.sequence [])
            nameNode anchor number
            fill number tag (← read)
          match ← peek with
          | some (.scalar text plain) =>
              skip
              let number ← add (scalarTag tag text plain) (.scalar text)
              nameNode anchor number
              return number
          | some .flowSequenceStart =>
              skip
              collection .sequence (Graph.flowSequence fuel handles true [])
          | some .flowMappingStart =>
              skip
              collection .mapping (Graph.flowMapping fuel handles true [])
          | next =>
              if indentless && next = some .blockEntry then
                collection .sequence (Graph.indentlessSequence fuel handles [])
              else if block && next = some .blockSequenceStart then
                skip
                collection .sequence (Graph.blockSequence fuel handles [])
              else if block && next = some .blockMappingStart then
                skip
                collection .mapping (Graph.blockMapping fuel handles [])
              else if anchor.isSome || tag.isSome then
                let number ← add (scalarTag tag [] true) (.scalar [])
                nameNode anchor number
                return number
              else unexpected

/-- Builds the rest of a block sequence, given the nodes before it, the last one first. -/
def Graph.blockSequence (fuel : Nat) (handles : List (String × String)) (done : List Nat) :
    Build Content :=
  match fuel with
  | 0 => throw .malformed
  | fuel + 1 => do
      if ← accept .blockEntry then
        let item ←
          if ← ahead [.blockEntry, .blockEnd] then addEmpty
          else Graph.node fuel handles true false
        Graph.blockSequence fuel handles (item :: done)
      else if ← accept .blockEnd then return .sequence done.reverse
      else unexpected

/-- Builds the rest of a sequence whose entries are not indented further than the mapping around it. -/
def Graph.indentlessSequence (fuel : Nat) (handles : List (String × String)) (done : List Nat) :
    Build Content :=
  match fuel with
  | 0 => throw .malformed
  | fuel + 1 => do
      if ← accept .blockEntry then
        let item ←
          if ← ahead [.blockEntry, .key, .value, .blockEnd] then addEmpty
          else Graph.node fuel handles true false
        Graph.indentlessSequence fuel handles (item :: done)
      else return .sequence done.reverse

/-- Builds the rest of a block mapping, given the entries before it, the last one first. -/
def Graph.blockMapping (fuel : Nat) (handles : List (String × String)) (done : List (Nat × Nat)) :
    Build Content :=
  match fuel with
  | 0 => throw .malformed
  | fuel + 1 => do
      if ← accept .key then
        let key ←
          if ← ahead [.key, .value, .blockEnd] then addEmpty
          else Graph.node fuel handles true true
        let value ←
          if ← accept .value then
            if ← ahead [.key, .value, .blockEnd] then addEmpty
            else Graph.node fuel handles true true
          else addEmpty
        Graph.blockMapping fuel handles ((key, value) :: done)
      else if ← accept .blockEnd then return .mapping done.reverse
      else unexpected

/-- Builds the rest of a sequence in brackets. An entry with a key is a mapping of its own. -/
def Graph.flowSequence (fuel : Nat) (handles : List (String × String)) (first : Bool)
    (done : List Nat) : Build Content :=
  match fuel with
  | 0 => throw .malformed
  | fuel + 1 => do
      if ← accept .flowSequenceEnd then return .sequence done.reverse
      if !first then
        if !(← accept .flowEntry) then unexpected
        if ← accept .flowSequenceEnd then return .sequence done.reverse
      let item ←
        if ← accept .key then
          let number ← add .mapping (.mapping [])
          let key ←
            if ← ahead [.value, .flowEntry, .flowSequenceEnd] then addEmpty
            else Graph.node fuel handles false false
          let value ←
            if ← accept .value then
              if ← ahead [.flowEntry, .flowSequenceEnd] then addEmpty
              else Graph.node fuel handles false false
            else addEmpty
          fill number .mapping (.mapping [(key, value)])
        else Graph.node fuel handles false false
      Graph.flowSequence fuel handles false (item :: done)

/-- Builds the rest of a mapping in braces. An entry without a key indicator is a key alone. -/
def Graph.flowMapping (fuel : Nat) (handles : List (String × String)) (first : Bool)
    (done : List (Nat × Nat)) : Build Content :=
  match fuel with
  | 0 => throw .malformed
  | fuel + 1 => do
      if ← accept .flowMappingEnd then return .mapping done.reverse
      if !first then
        if !(← accept .flowEntry) then unexpected
        if ← accept .flowMappingEnd then return .mapping done.reverse
      let entry ←
        if ← accept .key then
          let key ←
            if ← ahead [.value, .flowEntry, .flowMappingEnd] then addEmpty
            else Graph.node fuel handles false false
          let value ←
            if ← accept .value then
              if ← ahead [.flowEntry, .flowMappingEnd] then addEmpty
              else Graph.node fuel handles false false
            else addEmpty
          pure (key, value)
        else
          let key ← Graph.node fuel handles false false
          pure (key, ← addEmpty)
      Graph.flowMapping fuel handles false (entry :: done)

end

namespace Graph

/-- The handles that are known in every document. -/
def usualHandles : List (String × String) := [("!", "!"), ("!!", Tag.standardStart)]

/-- The directives of a document. -/
structure Directives where
  /-- Whether a version is demanded. -/
  versioned : Bool
  /-- The handles that are declared. -/
  handles : List (String × String)

/-- Reads the directives in front of a document. A version may be demanded once, its major number must
be one, and no handle may be declared twice. The first argument bounds their number. -/
def directives : Nat → Directives → Build Directives
  | 0, _ => throw .malformed
  | fuel + 1, known => do
      match ← peek with
      | some (.directive (.version major)) =>
          if known.versioned || major != 1 then throw .malformed
          skip
          directives fuel { known with versioned := true }
      | some (.directive (.tagHandle handle start)) =>
          if (known.handles.lookup handle).isSome then throw .malformed
          skip
          directives fuel { known with handles := (handle, start) :: known.handles }
      | some (.directive .other) =>
          skip
          directives fuel known
      | _ => return known

/-- Builds the document that starts with directives or an explicit mark. -/
def explicitDocument (fuel : Nat) : Build Nat := do
  let known ← directives fuel ⟨false, []⟩
  if !(← accept .documentStart) then unexpected
  let isEmpty ← match ← peek with
    | none => pure true
    | some .documentStart => pure true
    | some .documentEnd => pure true
    | some (.directive _) => pure true
    | _ => pure false
  if isEmpty then addEmpty else node fuel (known.handles ++ usualHandles) true false

/-- Moves past the marks that end a document, and demands that nothing follows them. The directives of
a further document are read before this document is refused. -/
def endOfStream (fuel : Nat) : Build Unit := do
  let rest := (← get).symbols.dropWhile (· = .documentEnd)
  modify fun builder => { builder with symbols := rest }
  if (← peek).isNone then return
  let _ ← directives fuel ⟨false, []⟩
  let _ ← peek
  unexpected

/-- Builds the one document of a sequence of symbols. -/
def document (fuel : Nat) : Build Nat := do
  let explicit ← match ← peek with
    | some .documentStart => pure true
    | some (.directive _) => pure true
    | _ => pure false
  let root ← if explicit then explicitDocument fuel else node fuel usualHandles true false
  endOfStream fuel
  return root

/-- The graph of the one document that a sequence of symbols holds; an empty sequence holds none. -/
def ofSymbols (symbols : List Symbol) : Except Fault (Option Graph) := do
  if symbols.isEmpty then return none
  let (root, builder) ← (document (2 * symbols.length + 4)).run ⟨symbols, #[], []⟩
  return some ⟨builder.nodes, root⟩

end Graph

end LoxLexer.Yaml
