import ArchModel.Decimal.Shortest
import ArchModel.Text.Quoted
import ArchModel.Text.Lines
import ArchModel.Yaml.Number
import ArchModel.Yaml.Timestamp

/-!
# The values of a document

A value is a scalar, or refers to a collection of the document by number; a collection may hold
itself.

* `Document` holds the collections. It is closed (`Document.IsClosed`) if what they refer to is
  there.
* `Value.sameKey` says when two values are one key: numbers are compared by value, whatever their
  type, truth values count as zero and one, and timestamps with offsets by their moments.
* `Document.text` writes a value as it reads on its own, `Document.nested` as it reads within a
  collection. A collection within itself is written as an ellipsis.
* `Document.writeLimit?` is what keeps a value from being written: a number in it with too many
  digits, or more collections within one another than calls fit on the stack. `Document.text?`
  writes a value that nothing keeps from it.
-/

namespace ArchModel.Yaml

open Text

/-- A value of a document. -/
inductive Value
  | null
  | bool (b : Bool)
  | int (n : Int)
  | float (x : Binary64)
  | text (s : String)
  | timestamp (t : Timestamp)
  | bytes (b : List Nat)
  /-- The list of a number. -/
  | list (id : Nat)
  /-- The mapping of a number. -/
  | map (id : Nat)
  /-- The list of a number, whose items are keys without values. -/
  | keySet (id : Nat)
  /-- The list of a number, whose items are a key and its value. -/
  | couple (id : Nat)
  deriving DecidableEq, Repr, Inhabited

/-- What keeps a value from being written or gone through. -/
inductive Limit
  /-- An integer has more digits than are written. -/
  | digits
  /-- More calls within one another are needed than fit on the stack. -/
  | calls
  deriving DecidableEq, Repr

/-- The word for the kind of failure that a limit leads to. -/
def Limit.kind : Limit → String
  | digits => "ValueError"
  | calls => "RecursionError"

/-- A collection of a document. -/
inductive Collection
  | list (items : List Value)
  | map (pairs : List (Value × Value))
  deriving DecidableEq, Repr, Inhabited

/-- A value with the collections it refers to. -/
structure Document where
  /-- The collections by number. -/
  collections : Array Collection := #[]
  /-- The outermost value. -/
  root : Value := .null
  deriving Repr, Inhabited

/-! ## References -/

/-- If a value is a collection, its number is less than another one. -/
def Value.IsBelow (n : Nat) : Value → Prop
  | .list id | .map id | .keySet id | .couple id => id < n
  | _ => True

/-- The values in a collection refer to collections with numbers less than another one. -/
def Collection.IsBelow (n : Nat) : Collection → Prop
  | .list items => ∀ v ∈ items, v.IsBelow n
  | .map pairs => ∀ p ∈ pairs, p.1.IsBelow n ∧ p.2.IsBelow n

/-- The collections of a document refer to collections that it has. -/
def Document.IsClosed (d : Document) : Prop :=
  ∀ c ∈ d.collections, c.IsBelow d.collections.size

namespace Value

/-! ## Keys -/

/-- The integer that a value equals, if it is a number that equals one. -/
def integer? : Value → Option Int
  | bool b => some (if b then 1 else 0)
  | int n => some n
  | float x => x.toInt?
  | _ => none

/-- The moment that a value is, if it is a timestamp with an offset. -/
def instant? : Value → Option Int
  | timestamp t => t.instant?
  | _ => none

/-- Whether two values are the same key of a mapping. -/
def sameKey (a b : Value) : Bool :=
  match a.integer?, b.integer? with
  | some m, some n => m == n
  | none, none =>
    match a.instant?, b.instant? with
    | some m, some n => m == n
    | _, _ => a == b
  | _, _ => false

/-! ## Scalars -/

/-- The word for a truth value. -/
def boolWord (b : Bool) : String := if b then "True" else "False"

/-- The text of a scalar as it reads on its own; collections have none. -/
def scalarText? : Value → Option String
  | null => some "None"
  | bool b => some (boolWord b)
  | int n => some (toString n)
  | float x => some x.text
  | text s => some s
  | timestamp t => some t.text
  | bytes b => some (quotedBytes b)
  | list _ | map _ | keySet _ | couple _ => none

/-- The text of a value that is a text, a number or a truth value. -/
def plainText? : Value → Option String
  | bool b => some (boolWord b)
  | int n => some (toString n)
  | float x => some x.text
  | text s => some s
  | _ => none

end Value

namespace Document

/-- The items of a list; none for another number. -/
def items (d : Document) (id : Nat) : List Value :=
  match d.collections[id]? with
  | some (.list items) => items
  | _ => []

/-- The pairs of a mapping; none for another number. -/
def pairs (d : Document) (id : Nat) : List (Value × Value) :=
  match d.collections[id]? with
  | some (.map pairs) => pairs
  | _ => []

/-- The value of a key in a list of pairs. -/
def lookup (key : Value) (pairs : List (Value × Value)) : Option Value :=
  (pairs.find? fun p => p.1.sameKey key).map (·.2)

/-- The value of a key set in a list of pairs: at its place if it is present, else at the end. -/
def put (key value : Value) : List (Value × Value) → List (Value × Value)
  | [] => [(key, value)]
  | (k, v) :: ps => if k.sameKey key then (k, value) :: ps else (k, v) :: put key value ps

/-- What holds of keys and of values holds of those that are set. -/
theorem forall_mem_put {K V : Value → Prop} {pairs : List (Value × Value)}
    (h : ∀ p ∈ pairs, K p.1 ∧ V p.2) {key value : Value} (hk : K key) (hv : V value) :
    ∀ p ∈ put key value pairs, K p.1 ∧ V p.2 := by
  induction pairs with
  | nil => simpa [put] using ⟨hk, hv⟩
  | cons p pairs ih =>
    obtain ⟨first, rest⟩ := List.forall_mem_cons.1 h
    rw [put]
    split
    · exact List.forall_mem_cons.2 ⟨⟨first.1, hv⟩, rest⟩
    · exact List.forall_mem_cons.2 ⟨first, ih rest⟩

/-- A collection set. -/
def setCollection (d : Document) (id : Nat) (c : Collection) : Document :=
  { d with collections := d.collections.setIfInBounds id c }

/-- A value as it reads within a collection, `around` being the collections around it. The depth of
nesting without repetition is at most the number of collections. -/
def nestedAt (d : Document) (around : List Nat) : Nat → Value → String
  | 0, _ => "..."
  | fuel + 1, v =>
    match v with
    | .text s => quoted s
    | .timestamp t => t.nested
    | .list id =>
      if around.contains id then "[...]"
      else
        let items := (d.items id).map (nestedAt d (id :: around) fuel)
        "[" ++ join ", " items ++ "]"
    | .map id =>
      if around.contains id then "\x7b...\x7d"
      else
        let pair := fun (p : Value × Value) =>
          nestedAt d (id :: around) fuel p.1 ++ ": " ++ nestedAt d (id :: around) fuel p.2
        "\x7b" ++ join ", " ((d.pairs id).map pair) ++ "\x7d"
    | .keySet id =>
      if (d.items id).isEmpty then "set()"
      else "\x7b" ++ join ", " ((d.items id).map (nestedAt d around fuel)) ++ "\x7d"
    | .couple id =>
      if around.contains id then "(...)"
      else "(" ++ join ", " ((d.items id).map (nestedAt d (id :: around) fuel)) ++ ")"
    | v => v.scalarText?.getD ""

/-- A value as it reads within a collection. -/
def nested (d : Document) (v : Value) : String := nestedAt d [] (d.collections.size + 2) v

/-- A value as it reads on its own. -/
def text (d : Document) (v : Value) : String := (v.scalarText?).getD (d.nested v)

/-- What keeps a value from being written, where a number of calls fits on the stack: one is needed
for the value and for each collection around a part of it. A collection within itself needs no
further ones. -/
def writeLimit? (d : Document) (around : List Nat) : Nat → Value → Option Limit
  | 0, _ => some .calls
  | calls + 1, v =>
    match v with
    | .int n => if n.natAbs < Nat.pow 10 mostDigits then none else some .digits
    | .list id | .keySet id | .couple id =>
      if around.contains id then none
      else (d.items id).findSome? (writeLimit? d (id :: around) calls)
    | .map id =>
      if around.contains id then none
      else (d.pairs id).findSome? fun p =>
        (writeLimit? d (id :: around) calls p.1).or (writeLimit? d (id :: around) calls p.2)
    | _ => none

/-- A value as it reads on its own, if nothing keeps it from being written. -/
def text? (d : Document) (calls : Nat) (v : Value) : Except Limit String :=
  match d.writeLimit? [] calls v with
  | some l => .error l
  | none => .ok (d.text v)

/-- Whether a value counts as given: null, false, zero, and empty texts and collections do not. -/
def isGiven (d : Document) (v : Value) : Bool :=
  match v with
  | .null => false
  | .bool b => b
  | .int n => n != 0
  | .float x => x.toInt? != some 0
  | .text s => s != ""
  | .timestamp _ => true
  | .bytes b => !b.isEmpty
  | .couple _ => true
  | .list id | .keySet id => !(d.items id).isEmpty
  | .map id => !(d.pairs id).isEmpty

end Document

end ArchModel.Yaml
