import ArchModel.Text.Base64
import ArchModel.Yaml.Node
import ArchModel.Yaml.Value

/-!
# From nodes to values

The value of a node is a scalar, or a collection numbered like the node; so an alias leads to the
same collection as its anchor. Collections are filled in the order in which they are met, each
after the one that mentions it.

* `Value.ofText?` is the value of the text of a scalar of a type.
* `Graph.mergeInto` replaces the merge keys of a mapping by the pairs of the mappings they name,
  which come first and are overruled by the mapping's own pairs.
* `Document.ofGraph` fills the collections, and `Document.ofText` reads a whole text.
-/

namespace ArchModel.Yaml

/-- Why a text gives no document. -/
inductive DocumentFault
  /-- The text is no YAML, or a node cannot be given a value. -/
  | fault (f : Fault)
  /-- A scalar is no value of its type. -/
  | value (f : ValueFault)
  deriving DecidableEq, Repr

/-- The value of the text of a scalar of a type; nothing for the types that scalars do not have. -/
def Value.ofText? (tag : NodeTag) (s : String) : Option (Except ValueFault Value) :=
  match tag with
  | .text => some (.ok (.text s))
  | .null => some (.ok .null)
  | .bool => some <|
    match NodeTag.boolWord? (String.ofList (s.toList.map Char.toLower)) with
    | some b => .ok (.bool b)
    | none => .error .truth
  | .int => some ((integerOf s).map .int)
  | .float => some ((floatOf s).map .float)
  | .timestamp => some <|
    match Timestamp.read? s.toList with
    | none => .error .timestampForm
    | some t =>
      match t.check? with
      | some t => .ok (.timestamp t)
      | none => .error .timestampRange
  | _ => none

namespace Graph

/-- A node by its number. -/
def node (g : Graph) (id : Nat) : Node := g.nodes[id]?.getD default

/-- The pairs of a mapping node, if it is one. -/
def pairs? (g : Graph) (id : Nat) : Option (List (Nat × Nat)) :=
  match g.node id with
  | .mapping _ pairs => some pairs
  | _ => none

/-- The pairs of a mapping node set. -/
def setPairs (g : Graph) (id : Nat) (pairs : List (Nat × Nat)) : Graph :=
  match g.node id with
  | .mapping tag _ => { g with nodes := g.nodes.setIfInBounds id (.mapping tag pairs) }
  | _ => g

/-- The type of a node. -/
def tag (g : Graph) (id : Nat) : NodeTag :=
  match g.node id with
  | .scalar t _ | .sequence t _ | .mapping t _ => t

/-- A node of type `default` turned into a text. -/
def settleDefault (g : Graph) (id : Nat) : Graph :=
  if g.tag id = .default then
    let settled := match g.node id with
      | .scalar _ s => Node.scalar .text s
      | .sequence _ items => .sequence .text items
      | .mapping _ pairs => .mapping .text pairs
    { g with nodes := g.nodes.setIfInBounds id settled }
  else g

mutual

/-- The graph with the merge keys of a mapping node replaced, from the pair at a position on, by
`merged` and the pairs that they name. -/
def mergeFrom (id index : Nat) (merged : List (Nat × Nat)) (g : Graph) :
    Nat → Except FaultCause Graph
  | 0 => .ok g
  | fuel + 1 => do
    let pairs := (g.pairs? id).getD []
    match pairs[index]? with
    | none => return if merged.isEmpty then g else g.setPairs id (merged ++ pairs)
    | some (k, v) =>
      if g.tag k = .merge then
        let g := g.setPairs id (pairs.eraseIdx index)
        match g.node v with
        | .mapping .. =>
          let g ← mergeFrom v 0 [] g fuel
          mergeFrom id index (merged ++ (g.pairs? v).getD []) g fuel
        | .sequence _ items =>
          let (g, groups) ← mergeItems items g fuel
          mergeFrom id index (merged ++ groups.reverse.flatten) g fuel
        | .scalar .. => throw .mergeOfNoMapping
      else mergeFrom id (index + 1) merged (g.settleDefault k) fuel

/-- The graph with the merge keys of several mapping nodes replaced, and their pairs. -/
def mergeItems (items : List Nat) (g : Graph) :
    Nat → Except FaultCause (Graph × List (List (Nat × Nat)))
  | 0 => .ok (g, [])
  | fuel + 1 =>
    match items with
    | [] => .ok (g, [])
    | id :: ids =>
      match g.node id with
      | .mapping .. => do
        let g ← mergeFrom id 0 [] g fuel
        let own := (g.pairs? id).getD []
        let (g, groups) ← mergeItems ids g fuel
        return (g, own :: groups)
      | _ => .error .mergeOfNoMapping

end

/-- The number of pairs and items of all nodes. -/
def weight (g : Graph) : Nat :=
  g.nodes.foldl (fun n node => n + match node with
    | .scalar .. => 1
    | .sequence _ items => items.length + 1
    | .mapping _ pairs => pairs.length + 1) 0

/-- The graph with the merge keys of a mapping node replaced. -/
def mergeInto (g : Graph) (id : Nat) : Except FaultCause Graph :=
  mergeFrom id 0 [] g (g.weight * (g.weight + 2) + 2)

end Graph

namespace Document

/-- The state of giving values to nodes. -/
structure Builder where
  /-- The nodes, of which some merge keys are already replaced. -/
  graph : Graph
  /-- The collections: those numbered like the nodes, and behind them the pairs of lists of
  pairs. -/
  collections : Array Collection
  /-- The collections that are met and not yet filled, first ones first. -/
  pending : List Nat := []
  /-- The collections that were met. -/
  met : List Nat := []

/-- A step of giving values to nodes. -/
abbrev Build := StateT Builder (Except DocumentFault)

namespace Build

/-- Fail on a node that cannot be given a value. -/
def fail {α : Type} (cause : FaultCause) : Build α := fun _ => .error (.fault ⟨cause, 0⟩)

/-- Fail on the value of a node. -/
def failValue {α : Type} (f : ValueFault) : Build α := fun _ => .error (.value f)

/-- Take down that a collection is met. -/
def meet (id : Nat) : Build Unit := modify fun b =>
  if b.met.contains id then b
  else { b with met := id :: b.met, pending := b.pending ++ [id] }

/-- The collection of a node, or one that is added. -/
def put (id : Nat) (c : Collection) : Build Unit :=
  modify fun b => { b with collections := b.collections.setIfInBounds id c }

/-- The text of a node that a scalar is expected of: of a mapping the text of its default value. -/
def textOf (id : Nat) : Nat → Build String
  | 0 => failValue .endless
  | fuel + 1 => do
    let g := (← get).graph
    match g.node id with
    | .scalar _ text => return text
    | .sequence .. => fail .shapeOfTag
    | .mapping _ pairs =>
      match pairs.find? fun p => g.tag p.1 = .default with
      | some (_, v) => textOf v fuel
      | none => fail .shapeOfTag

/-- The value of the text of a scalar. -/
def scalar (tag : NodeTag) (text : String) : Build Value :=
  match Value.ofText? tag text with
  | some (.ok v) => return v
  | some (.error f) => failValue f
  | none => fail .shapeOfTag

/-- The value of a node; a collection is left to be filled, and only then its node has to be of the
right kind. -/
def value (id : Nat) : Build Value := do
  let g := (← get).graph
  match g.tag id with
  | .sequence | .pairList => meet id; return .list id
  | .mapping => meet id; return .map id
  | .keySet => meet id; return .keySet id
  | .other name => fail (.unknownTag name)
  | .merge => fail (.unknownTag "<<")
  | .default => fail (.unknownTag "=")
  | tag =>
    let text ← textOf id (g.nodes.size + 1)
    match tag with
    | .binary =>
      if text.toList.any (0x80 ≤ ·.toNat) then fail .base64
      else match Text.decodeBase64? text.toList with
        | some bytes => return .bytes bytes
        | none => fail .base64
    | .timestamp =>
      match g.node id with
      | .scalar .. => pure ()
      | _ => failValue .timestampShape
    | _ => pure ()
    scalar tag text

/-- Pairs with that of a key node and its value node. -/
def addPair (pairs : List (Value × Value)) (p : Nat × Nat) : Build (List (Value × Value)) := do
  let key ← value p.1
  match key with
  | .list _ | .map _ | .keySet _ => fail .collectionAsKey
  | _ =>
    let item ← value p.2
    return Document.put key item pairs

/-- The pairs of a mapping node, its merge keys replaced. -/
def pairsOf (id : Nat) : Build (List (Value × Value)) := do
  let g := (← get).graph
  match g.node id with
  | .mapping .. =>
    match g.mergeInto id with
    | .ok g =>
      modify fun b => { b with graph := g }
      ((g.pairs? id).getD []).foldlM addPair []
    | .error cause => fail cause
  | _ => fail .shapeOfTag

/-- A key and its value, of a node that is a mapping with nothing else in it. -/
def coupleOf (id : Nat) : Build Value := do
  match (← get).graph.node id with
  | .mapping _ [(k, v)] =>
    let key ← value k
    let item ← value v
    let b ← get
    set { b with collections := b.collections.push (.list [key, item]) }
    return .couple b.collections.size
  | _ => fail .shapeOfTag

/-- The keys of a set, numbers in ascending order. -/
def orderKeys (keys : List Value) : List Value :=
  match keys.mapM Value.integer? with
  | some _ => keys.mergeSort fun a b => decide (a.integer?.getD 0 ≤ b.integer?.getD 0)
  | none => keys

/-- Fill the collection of a node. -/
def fillOne (id : Nat) : Build Unit := do
  let g := (← get).graph
  match g.tag id with
  | .sequence =>
    match g.node id with
    | .sequence _ items => put id (.list (← items.mapM value))
    | _ => fail .shapeOfTag
  | .pairList =>
    match g.node id with
    | .sequence _ items => put id (.list (← items.mapM coupleOf))
    | _ => fail .shapeOfTag
  | .keySet => put id (.list (orderKeys ((← pairsOf id).map (·.1))))
  | _ => put id (.map (← pairsOf id))

/-- Fill the collections that are met, until none is left. -/
def fillAll : Nat → Build Unit
  | 0 => pure ()
  | fuel + 1 => do
    match (← get).pending with
    | [] => pure ()
    | id :: ids =>
      modify fun b => { b with pending := ids }
      fillOne id
      fillAll fuel

end Build

/-- The document of a graph. -/
def ofGraph (g : Graph) : Except DocumentFault Document := do
  let start : Builder :=
    { graph := g, collections := Array.replicate g.nodes.size (.list []) }
  let build : Build Value := do
    let root ← Build.value g.root
    Build.fillAll (g.nodes.size + 1)
    return root
  let (root, b) ← build.run start
  return { collections := b.collections, root }

/-- The fault of a document in a text that is no graph of nodes. -/
def faultOf (f : Fault) : DocumentFault :=
  match f.cause with
  | .noCharacter code => .value (.character code)
  | .nesting => .value .endless
  | _ => .fault f

/-- The document that a text stands for; an empty text is null. -/
def ofText (cs : List Char) : Except DocumentFault Document :=
  match Graph.ofText cs with
  | .error f => .error (faultOf f)
  | .ok none => .ok {}
  | .ok (some g) => ofGraph g

end Document

end ArchModel.Yaml
