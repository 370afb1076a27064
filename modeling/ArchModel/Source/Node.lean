import ArchModel.Source.Grammar.Form
import ArchModel.Source.Token

/-!
# Nodes

What the grammar reads is a tree of nodes: tokens, rows of parts read by a rule, and texts whose
escapes are resolved. A rule that reads one part alone adds no node of its own, unless it is a
statement.

* `Node.line` is the line where a node starts.
* `Node.spread` resolves rows and the nodes of some rules into what they hold; what it gives is not
  larger (`sizeOf_spread_le`).
* `Node.unassignable?` is the first part of a node that cannot be assigned to or deleted.
-/

namespace ArchModel.Source

open Grammar (Rule)

/-- A node. -/
inductive Node
  | leaf (token : Token)
  | branch (rule : Rule) (place : Position) (parts : List Node)
  /-- What a repetition, an optional part or a group reads. -/
  | row (items : List Node)
  /-- A text, unless it stands for bytes. -/
  | text (place : Position) (value : Option String)
  /-- A formatted text with the expressions in it. -/
  | format (place : Position) (parts : List Node)
  deriving Repr, Inhabited

namespace Node

/-- The node of a row of parts. -/
def ofParts : List Node → Node
  | [n] => n
  | ns => .row ns

/-- The node of the parts that a rule reads, which start at a place. Brackets around a single
expression are no part of it; a statement starts where they do. -/
def ofRule (r : Rule) (place : Position) : List Node → Node
  | [n] => if r = .simple then .branch r place [n] else n
  | [opening, n, closing] =>
    if r = .group || r = .bracketedTarget then n else .branch r place [opening, n, closing]
  | ns => .branch r place ns

mutual

/-- The number of rules within one another that read a node. -/
def depth : Node → Nat
  | branch _ _ parts => depthAll parts + 1
  | row items => depthAll items
  | format _ parts => depthAll parts + 1
  | _ => 0

/-- The greatest depth of several nodes. -/
def depthAll : List Node → Nat
  | [] => 0
  | n :: ns => max n.depth (depthAll ns)

end

/-- The place where a node starts. -/
def place : Node → Position
  | leaf t => t.place
  | branch _ p _ => p
  | row items =>
    match items with
    | [] => default
    | n :: _ => n.place
  | text p _ => p
  | format p _ => p

/-- The line where a node starts. -/
def line (n : Node) : Nat := n.place.line

/-- The sign that a node is. -/
def sign? : Node → Option String
  | leaf ⟨.sign s, _, _⟩ => some s
  | _ => none

/-- The name that a node is, as it is written. -/
def name? : Node → Option String
  | leaf ⟨.name s, _, _⟩ => some s
  | _ => none

/-- Whether a node is a comma or a bracket. -/
def isPunctuation (n : Node) : Bool :=
  match n.sign? with
  | some s => [",", "(", ")", "[", "]", "\x7b", "\x7d"].contains s
  | none => false

/-! ## Parts -/

/-- The nodes in a node, where rows and the nodes of some rules are resolved. -/
def spread (isOpen : Rule → Bool) : Node → List Node
  | row ns => ns.flatMap (spread isOpen)
  | branch r p ns => if isOpen r then ns.flatMap (spread isOpen) else [branch r p ns]
  | n => [n]

theorem sizeOf_spread_le (isOpen : Rule → Bool) (n : Node) :
    ∀ m ∈ n.spread isOpen, sizeOf m ≤ sizeOf n := by
  have inner : ∀ ns : List Node, (∀ n ∈ ns, ∀ m ∈ n.spread isOpen, sizeOf m ≤ sizeOf n) →
      ∀ m ∈ ns.flatMap (spread isOpen), sizeOf m ≤ sizeOf ns := by
    intro ns ih m hm
    obtain ⟨n, hn, hmn⟩ := List.mem_flatMap.1 hm
    have h₁ := ih n hn m hmn
    have h₂ := List.sizeOf_lt_of_mem hn
    omega
  induction n using spread.induct isOpen with
  | case1 ns ih =>
    intro m hm
    rw [spread] at hm
    have := inner ns ih m hm
    simp only [row.sizeOf_spec]
    omega
  | case2 r p ns h ih =>
    intro m hm
    rw [spread, if_pos h] at hm
    have := inner ns ih m hm
    simp only [branch.sizeOf_spec]
    omega
  | case3 r p ns h =>
    intro m hm
    rw [spread, if_neg h, List.mem_singleton] at hm
    simp [hm]
  | case4 n h₁ h₂ =>
    intro m hm
    cases n with
    | row ns => exact absurd rfl (h₁ ns)
    | branch r p ns => exact absurd rfl (h₂ r p ns)
    | _ => simp only [spread, List.mem_singleton] at hm; simp [hm]

/-- The parts of a node, spread. -/
def inside (isOpen : Rule → Bool) : Node → List Node
  | branch _ _ parts => parts.flatMap (spread isOpen)
  | _ => []

/-- A part is smaller than what it is part of. -/
theorem sizeOf_lt_of_mem_inside {isOpen : Rule → Bool} {m n : Node} (h : m ∈ n.inside isOpen) :
    sizeOf m < sizeOf n := by
  cases n with
  | branch r p parts =>
    obtain ⟨a, ha, hma⟩ := List.mem_flatMap.1 h
    have h₁ := sizeOf_spread_le isOpen a m hma
    have h₂ := List.sizeOf_lt_of_mem ha
    simp only [branch.sizeOf_spec]
    omega
  | _ => simp [inside] at h

/-- Whether a rule reads members of what is around it. -/
def holdsMembers : Rule → Bool
  | .starNamedList | .targetList | .targetTuple | .deleteTargets => true
  | _ => false

/-- The nodes between the commas and brackets of a list. -/
def members (n : Node) : List Node := (n.inside holdsMembers).filter fun m => !m.isPunctuation

theorem sizeOf_lt_of_mem_members {m n : Node} (h : m ∈ n.members) : sizeOf m < sizeOf n :=
  sizeOf_lt_of_mem_inside (List.mem_filter.1 h).1

/-- Whether a rule reads arguments of a call. -/
def holdsArguments (r : Rule) : Bool := r = .arguments || r = .args || r = .namedArgs

/-- The arguments in what is read between the brackets of a call. -/
def arguments (n : Node) : List Node := (n.spread holdsArguments).filter fun m => !m.isPunctuation

/-- Whether an argument of a call goes by position. -/
def isPositional : Node → Bool
  | branch r .. => r != .namedOrStarred && r != .namedOrSpread
  | _ => true

/-! ## Targets -/

/-- Whether a node is a tuple or a list. -/
def isSequence : Node → Bool
  | branch r .. => r = .starExpressions || r = .tupleDisplay || r = .listDisplay
  | _ => false

/-- What a part of an expression is to be used for. -/
inductive TargetUse
  | assign
  | loop
  | delete
  deriving DecidableEq, Repr

/-- The part of a node that cannot be used as a target. In the head of a loop an expression with
`in` counts up to that word. -/
def unassignable? (use : TargetUse) (n : Node) : Option Node :=
  match n with
  | branch .primary _ [_, .leaf ⟨.sign ".", _, _⟩, _] => none
  | branch .primary _ [_, .leaf ⟨.sign "[", _, _⟩, _, _] => none
  | leaf ⟨.name _, _, _⟩ => none
  | branch .comparison _ [left, .row (.branch .isIn _ _ :: _)] =>
    if use = .loop then unassignable? use left else some n
  | branch .comparison .. => if use = .loop then none else some n
  | branch .starExpression _ [_, value] | branch .starNamed _ [_, value] =>
    if use = .delete then some n else unassignable? use value
  | n =>
    if n.isSequence then n.members.attach.findSome? fun ⟨m, _⟩ => unassignable? use m
    else some n
termination_by sizeOf n
decreasing_by
  · simp +arith
  · simp +arith
  · simp +arith
  · exact sizeOf_lt_of_mem_members ‹_›

end Node

end ArchModel.Source
