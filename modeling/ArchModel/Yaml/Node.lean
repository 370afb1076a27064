import ArchModel.Yaml.Scan
import ArchModel.Yaml.Implicit

/-!
# The node graph of a document

A document is a graph of nodes: scalars, sequences and mappings, each with its type. An alias is
one more way to a node, possibly to one that holds the alias itself, so nodes are numbered and
refer to each other by number.

* `Graph.ofTokens` reads the graph of the only document of a text.
* `Compose.within` reads what is in a collection, and refuses too many of them within one another.
* Each reader of this module takes the kind of place into account: after a block indicator a
  sequence may stand without an indentation of its own.
-/

namespace ArchModel.Yaml

/-- What a node holds. -/
inductive Node
  | scalar (tag : NodeTag) (text : String)
  | sequence (tag : NodeTag) (items : List Nat)
  | mapping (tag : NodeTag) (pairs : List (Nat × Nat))
  deriving Repr, Inhabited

/-- The nodes of a document by number. -/
structure Graph where
  /-- The nodes. -/
  nodes : Array Node := #[]
  /-- The outermost node. -/
  root : Nat := 0

/-- The state of reading a document. -/
structure Composer where
  /-- The tokens to come. -/
  tokens : List Token
  /-- The nodes so far. -/
  nodes : Array Node := #[]
  /-- The nodes with an anchor. -/
  anchors : List (String × Nat) := []
  /-- The meanings of the tag handles. -/
  handles : List (String × String) := []
  /-- The number of collections around the place reached. -/
  depth : Nat := 0

/-- A step of reading a document. -/
abbrev Compose := StateT Composer (Except Fault)

namespace Compose

/-- Fail. The line is not known any more. -/
def fail {α : Type} (cause : FaultCause) : Compose α := fun _ => .error ⟨cause, 0⟩

/-- The next token. -/
def peek : Compose Token := fun s =>
  match s.tokens with
  | .bad f :: _ => .error f
  | t :: _ => .ok (t, s)
  | [] => .ok (.streamEnd, s)

/-- Pass the next token. -/
def pass : Compose Unit := modify fun s => { s with tokens := s.tokens.drop 1 }

/-- Pass the next token if it is the given one: the answer. -/
def accept (t : Token) : Compose Bool := do
  if (← peek) == t then pass; return true else return false

/-- A new node. -/
def new (n : Node) : Compose Nat := do
  let s ← get
  set { s with nodes := s.nodes.push n }
  return s.nodes.size

/-- Set the content of a node. -/
def fill (id : Nat) (n : Node) : Compose Unit :=
  modify fun s => { s with nodes := s.nodes.setIfInBounds id n }

/-- Give a node an anchor. -/
def anchor (name : Option String) (id : Nat) : Compose Unit :=
  match name with
  | some name => modify fun s => { s with anchors := (name, id) :: s.anchors }
  | none => pure ()

/-- The name that a tag stands for. -/
def tagName (handle : Option String) (suffix : String) : Compose String := do
  match handle with
  | none => return suffix
  | some h =>
    match (← get).handles.lookup h with
    | some meaning => return meaning ++ suffix
    | none => fail .undefinedTagHandle

/-- An anchor and a tag in either order. -/
def properties : Compose (Option String × Option String) := do
  match ← peek with
  | .anchor a =>
    pass
    match ← peek with
    | .tag h s => pass; return (some a, some (← tagName h s))
    | _ => return (some a, none)
  | .tag h s =>
    pass
    let name ← tagName h s
    match ← peek with
    | .anchor a => pass; return (some a, some name)
    | _ => return (none, some name)
  | _ => return (none, none)

/-- The type of a collection with an explicit tag or none. -/
def collectionTag (tag : Option String) (own : NodeTag) : NodeTag :=
  match tag with
  | none => own
  | some "!" => own
  | some name => .ofName name

/-- The type of a scalar with an explicit tag or none. Only a plain scalar without a tag, or one
with the tag `!`, has a type by its form. -/
def scalarTag (tag : Option String) (plain : Bool) (text : String) : NodeTag :=
  match tag with
  | none => if plain then .ofForm text else .text
  | some "!" => .ofForm text
  | some name => .ofName name

/-- An empty scalar. -/
def empty : Compose Nat := new (.scalar .null "")

/-- Whether the next token is one of a list, at which an entry left out is an empty scalar. -/
def atEnd (ends : List Token) : Compose Bool := return ends.contains (← peek)

/-- The number of collections within one another from which on a document is refused. -/
def maxNesting : Nat := 489

/-- Read what is in a collection. -/
def within {α : Type} (content : Compose α) : Compose α := do
  let s ← get
  if maxNesting ≤ s.depth + 1 then fail .nesting
  set { s with depth := s.depth + 1 }
  let a ← content
  modify fun s => { s with depth := s.depth - 1 }
  return a

/-- The kind of a place. -/
inductive Place
  /-- A place in block style. -/
  | block
  /-- A place in block style where a sequence needs no indentation of its own. -/
  | blockOrDash
  /-- A place within brackets. -/
  | flow
  deriving DecidableEq

mutual

/-- A node at a kind of place. -/
def node (place : Place) : Nat → Compose Nat
  | 0 => fail .nodeExpected
  | fuel + 1 => do
    match ← peek with
    | .alias name =>
      pass
      match (← get).anchors.lookup name with
      | some id => return id
      | none => fail (.undefinedAlias name)
    | _ =>
      let (anchorName, tag) ← properties
      let _ ← peek
      match anchorName with
      | some name =>
        if ((← get).anchors.lookup name).isSome then fail (.repeatedAnchor name)
      | none => pure ()
      match ← peek with
      | .scalar text plain =>
        pass
        let id ← new (.scalar (scalarTag tag plain text) text)
        anchor anchorName id
        return id
      | .flowSequenceStart =>
        pass
        let id ← new default
        anchor anchorName id
        let items ← within (flowItems true fuel)
        fill id (.sequence (collectionTag tag .sequence) items)
        return id
      | .flowMappingStart =>
        pass
        let id ← new default
        anchor anchorName id
        let pairs ← within (flowPairs true fuel)
        fill id (.mapping (collectionTag tag .mapping) pairs)
        return id
      | t =>
        if place != .flow && t == .blockSequenceStart then
          pass
          let id ← new default
          anchor anchorName id
          let items ← within (blockItems fuel)
          unless ← accept .blockEnd do fail .entryExpected
          fill id (.sequence (collectionTag tag .sequence) items)
          return id
        else if place != .flow && t == .blockMappingStart then
          pass
          let id ← new default
          anchor anchorName id
          let pairs ← within (blockPairs fuel)
          fill id (.mapping (collectionTag tag .mapping) pairs)
          return id
        else if place == .blockOrDash && t == .blockEntry then
          let id ← new default
          anchor anchorName id
          let items ← within (dashItems fuel)
          fill id (.sequence (collectionTag tag .sequence) items)
          return id
        else if anchorName.isSome || tag.isSome then
          let id ← new (.scalar (scalarTag tag true "") "")
          anchor anchorName id
          return id
        else fail .nodeExpected

/-- The items of a block sequence. -/
def blockItems : Nat → Compose (List Nat)
  | 0 => fail .entryExpected
  | fuel + 1 => do
    if ← accept .blockEntry then
      let item ← if ← atEnd [.blockEntry, .blockEnd] then empty else node .block fuel
      return item :: (← blockItems fuel)
    else return []

/-- The items of a sequence without an indentation of its own. -/
def dashItems : Nat → Compose (List Nat)
  | 0 => fail .entryExpected
  | fuel + 1 => do
    if ← accept .blockEntry then
      let item ←
        if ← atEnd [.blockEntry, .key, .value, .blockEnd] then empty else node .block fuel
      return item :: (← dashItems fuel)
    else return []

/-- The pairs of a block mapping, up to its end. -/
def blockPairs : Nat → Compose (List (Nat × Nat))
  | 0 => fail .entryExpected
  | fuel + 1 => do
    if ← accept .blockEnd then return []
    let ends := [Token.key, .value, .blockEnd]
    unless ← accept .key do fail .entryExpected
    let k ← if ← atEnd ends then empty else node .blockOrDash fuel
    let v ←
      if ← accept .value then
        if ← atEnd ends then empty else node .blockOrDash fuel
      else empty
    return (k, v) :: (← blockPairs fuel)

/-- The items of a sequence in brackets, up to its end. A single pair is a mapping of its own. -/
def flowItems (first : Bool) : Nat → Compose (List Nat)
  | 0 => fail .entryExpected
  | fuel + 1 => do
    if ← accept .flowSequenceEnd then return []
    unless first do
      unless ← accept .flowEntry do fail .entryExpected
    if ← accept .flowSequenceEnd then return []
    let ends := [Token.flowEntry, .flowSequenceEnd]
    if ← accept .key then
      let id ← new default
      let pair ← within do
        let k ← if ← atEnd (.value :: ends) then empty else node .flow fuel
        let v ←
          if ← accept .value then
            if ← atEnd ends then empty else node .flow fuel
          else empty
        return (k, v)
      fill id (.mapping .mapping [pair])
      return id :: (← flowItems false fuel)
    else
      let item ← node .flow fuel
      return item :: (← flowItems false fuel)

/-- The pairs of a mapping in brackets, up to its end. A node alone is a key without a value. -/
def flowPairs (first : Bool) : Nat → Compose (List (Nat × Nat))
  | 0 => fail .entryExpected
  | fuel + 1 => do
    if ← accept .flowMappingEnd then return []
    unless first do
      unless ← accept .flowEntry do fail .entryExpected
    if ← accept .flowMappingEnd then return []
    let ends := [Token.flowEntry, .flowMappingEnd]
    if ← accept .key then
      let k ← if ← atEnd (.value :: ends) then empty else node .flow fuel
      let v ←
        if ← accept .value then
          if ← atEnd ends then empty else node .flow fuel
        else empty
      return (k, v) :: (← flowPairs false fuel)
    else
      let k ← node .flow fuel
      let v ← empty
      return (k, v) :: (← flowPairs false fuel)

end

/-- The directives before a document. -/
def directives (version : Bool) (handles : List (String × String)) :
    Nat → Compose (List (String × String))
  | 0 => return handles
  | fuel + 1 => do
    match ← peek with
    | .directive (.version major _) =>
      if version || major != 1 then fail .directive
      pass
      directives true handles fuel
    | .directive (.tag handle meaning) =>
      if (handles.lookup handle).isSome then fail .directive
      pass
      directives version ((handle, meaning) :: handles) fuel
    | .directive .other =>
      pass
      directives version handles fuel
    | _ => return handles

/-- The meanings of the tag handles that need no directive. -/
def coreHandles : List (String × String) := [("!", "!"), ("!!", "tag:yaml.org,2002:")]

/-- Pass the marks at the end of a document. -/
def passEnds : Nat → Compose Unit
  | 0 => pure ()
  | fuel + 1 => do
    if ← accept .documentEnd then passEnds fuel

/-- The outermost node of the only document, if there is one. -/
def document : Compose (Option Nat) := do
  let fuel := 2 * (← get).tokens.length + 2
  let root ← match ← peek with
    | .streamEnd => pure none
    | .directive _ | .documentStart => do
      let given ← directives false [] fuel
      modify fun s => { s with handles := given ++ coreHandles }
      unless ← accept .documentStart do fail .nodeExpected
      match ← peek with
      | .directive _ | .documentStart | .documentEnd | .streamEnd => pure (some (← empty))
      | _ => pure (some (← node .block fuel))
    | _ => do
      modify fun s => { s with handles := coreHandles }
      pure (some (← node .block fuel))
  passEnds fuel
  unless (← peek) == .streamEnd do
    let _ ← directives false [] fuel
    let _ ← peek
    fail .secondDocument
  return root

end Compose

/-- The graph of the only document in a row of tokens; nothing for an empty text. -/
def Graph.ofTokens (tokens : List Token) : Except Fault (Option Graph) := do
  let (root, s) ← Compose.document.run { tokens }
  return root.map fun root => { nodes := s.nodes, root }

/-- The graph of the only document of a text. -/
def Graph.ofText (cs : List Char) : Except Fault (Option Graph) := do
  Graph.ofTokens (Token.scan cs)

end ArchModel.Yaml
