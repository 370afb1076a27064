import ArchModel.Group.Levels

/-!
# Groups as they may be written

Groups are written as mappings of mappings, but a level may also be a list, whose members are
names, or mappings that count as part of the level, or a single name.

`GroupNormalizer.run` turns a value into mappings alone. A mapping keeps its number and its contents
are replaced in place, so that everything that refers to it sees the new contents, and a mapping
within itself stays one. The calls within one another have to fit on the stack, those that write a
name included; the first limit that is met is taken down. `normalizeGroups` is the outcome where the
stack is long enough.
-/

namespace ArchModel

open Yaml

/-- The state of normalizing: the document, and the mappings that were entered. -/
structure GroupNormalizer where
  /-- The document, in which some mappings are normalized. -/
  document : Document
  /-- The mappings entered so far. -/
  entered : List Nat := []
  /-- The first limit that was met. -/
  limit : Option Limit := none

namespace GroupNormalizer

/-- A new mapping. -/
def fresh (r : GroupNormalizer) (pairs : List (Value × Value)) : Value × GroupNormalizer :=
  let d := r.document
  (.map d.collections.size,
    { r with document := { d with collections := d.collections.push (.map pairs) } })

/-- A key of a mapping set. -/
def set (r : GroupNormalizer) (id : Nat) (key value : Value) : GroupNormalizer :=
  { r with document :=
      r.document.setCollection id (.map (Document.put key value (r.document.pairs id))) }

/-- Take down that a limit is met. -/
def meet (r : GroupNormalizer) (limit : Option Limit) : GroupNormalizer :=
  { r with limit := r.limit.or limit }

/-- Take down what keeps a value from being written as a name. -/
def name (r : GroupNormalizer) (calls : Nat) (v : Value) : GroupNormalizer :=
  r.meet (r.document.writeLimit? [] calls v)

/-- A key of a mapping set to its value turned into mappings. -/
def enterPair (normalize : GroupNormalizer → Value → Value × GroupNormalizer) (id : Nat)
    (r : GroupNormalizer) (pair : Value × Value) : GroupNormalizer :=
  let child := normalize r pair.2
  child.2.set id pair.1 child.1

/-- The pairs of a level with those that an item of a list adds. -/
def mergeItem (normalize : GroupNormalizer → Value → Value × GroupNormalizer) (calls : Nat)
    (s : List (Value × Value) × GroupNormalizer) (item : Value) :
    List (Value × Value) × GroupNormalizer :=
  match item with
  | .map id =>
    let r := (normalize s.2 item).2
    ((r.document.pairs id).foldl (fun pairs p => Document.put p.1 p.2 pairs) s.1, r)
  | .null => s
  | item =>
    let leaf := (s.2.name calls item).fresh []
    (Document.put (.text (s.2.document.text item)) leaf.1 s.1, leaf.2)

/-- The value turned into mappings, with a number of calls that fit on the stack. Each mapping is
entered once, and lists do not nest. -/
def normalize (r : GroupNormalizer) (v : Value) : Nat → Value × GroupNormalizer
  | 0 => (v, r.meet (some .calls))
  | calls + 1 =>
    match v with
    | .map id =>
      if r.entered.contains id then (v, r)
      else
        let start := { r with entered := id :: r.entered }
        (v, (r.document.pairs id).foldl (enterPair (fun r v => normalize r v calls) id) start)
    | .text s =>
      let leaf := r.fresh []
      leaf.2.fresh [(.text s, leaf.1)]
    | .list id =>
      let merged :=
        (r.document.items id).foldl (mergeItem (fun r v => normalize r v calls) calls) ([], r)
      merged.2.fresh merged.1
    | _ => r.fresh []

/-- A value turned into mappings, and the state reached. -/
def run (calls : Nat) (d : Document) (v : Value) : Value × GroupNormalizer :=
  normalize { document := d } v calls

end GroupNormalizer

/-- A value turned into mappings, and the document with the mappings normalized in it. A mapping is
entered once, and a list stands in a mapping, so the number of collections bounds the calls. -/
def normalizeGroups (d : Document) (v : Value) : Value × Document :=
  let (v, r) := GroupNormalizer.run (2 * d.collections.size + 2) d v
  (v, r.document)

end ArchModel
