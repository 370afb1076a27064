import ArchModel.Program.Resolve

/-!
# Following expressions and annotations to classes

An expression stands for a class if it is a dotted name that does, or a text that quotes such an
expression. An annotation may name several classes: the members of a union, and for a subscript
that names no class itself what stands between its brackets.

* `Expr.quoted?` is the expression that a text quotes. It has less weight than the text, so
  quotations within quotations come to an end.
* `Expr.members` lists the members of a union.
* `Program.resolveExpr?` and `Program.resolveAnnotation` follow expressions and annotations.
* `Program.exprFault?` and `Program.annotationFault?` say what keeps them from being followed: a
  text that is never looked into, which stops the work.
-/

namespace ArchModel

open Text

namespace Source.Expr

mutual

/-- The number of nodes of an expression and of characters of its texts. -/
def weight : Expr → Nat
  | name _ => 1
  | member value _ => value.weight + 1
  | subscript value index => value.weight + index.weight + 1
  | call func args _ => func.weight + weightAll args + 1
  | text s => s.length + 1
  | literal => 1
  | union left right => left.weight + right.weight + 1
  | tuple items => weightAll items + 1
  | list items => weightAll items + 1
  | starred value => value.weight + 1
  | other parts => weightAll parts + 1

/-- The weight of several expressions. -/
def weightAll : List Expr → Nat
  | [] => 0
  | e :: es => e.weight + weightAll es

end

theorem weight_pos (e : Expr) : 0 < e.weight := by cases e <;> simp [weight]

/-- The expression that a text quotes. It has at most one node for each character. -/
def quoted? (s : String) : Option Expr := (ofText s).toOption.filter fun e => e.weight ≤ s.length

theorem weight_of_quoted {s : String} {e : Expr} (h : quoted? s = some e) :
    e.weight < (text s).weight := by
  have := (Option.filter_eq_some_iff.1 h).2
  simp only [decide_eq_true_eq] at this
  simp only [weight]
  omega

/-- The last part of a dotted name. -/
def lastName (dotted : String) : String := (split '.' dotted).getLast?.getD ""

/-- Subscripts of these names stand for what is between their brackets. -/
def unionNames : List String := ["Optional", "Union", "Annotated"]

/-- The parts between the brackets of a subscript. -/
def indices : Expr → List Expr
  | tuple items => items
  | e => [e]

/-- The parts of a subscript that are members of a union, if it stands for one: of an annotated type
the first part alone. -/
def unionParts? (value index : Expr) : Option (List Expr) := do
  let last := lastName (← value.dotted?)
  if !unionNames.contains last then none
  return if last = "Annotated" then index.indices.take 1 else index.indices

theorem weightAll_take_le (n : Nat) (es : List Expr) : weightAll (es.take n) ≤ weightAll es := by
  induction es generalizing n with
  | nil => simp
  | cons e es ih =>
    cases n with
    | zero => simp [weightAll]
    | succ n => simp only [List.take_succ_cons, weightAll]; have := ih n; omega

theorem weightAll_indices_le (e : Expr) : weightAll e.indices ≤ e.weight := by
  cases e <;> simp [indices, weight, weightAll]

theorem weightAll_unionParts {value index : Expr} {parts : List Expr}
    (h : unionParts? value index = some parts) :
    weightAll parts < (subscript value index).weight := by
  have hi := weightAll_indices_le index
  have ht := weightAll_take_le 1 index.indices
  have hw : (subscript value index).weight = value.weight + index.weight + 1 := by simp [weight]
  simp only [unionParts?] at h
  cases hd : value.dotted? with
  | none => simp [hd] at h
  | some d =>
    simp only [hd, Option.bind_eq_bind, Option.bind_some] at h
    split at h
    · simp at h
    · simp only [Option.pure_def, Option.some.injEq] at h
      subst h
      split <;> omega

/-- What is wrong with a text that is never looked into. -/
def textFault? (s : String) : Option SourceFault :=
  match ofText s with
  | .ok _ => none
  | .error f => if f.cause.isFatal then some f else none

mutual

/-- The members of a union; an expression of another kind is its only member. Literals are no
members, and neither are texts, except those that are never looked into. -/
def members : Expr → List Expr
  | text s =>
    match _h : quoted? s with
    | some e => e.members
    | none => if (textFault? s).isSome then [text s] else []
  | literal => []
  | union left right => left.members ++ right.members
  | subscript value index =>
    match _h : unionParts? value index with
    | some parts => membersAll parts
    | none => [subscript value index]
  | e => [e]
termination_by e => 2 * e.weight
decreasing_by
  · have := weight_of_quoted _h; omega
  · simp only [weight]; omega
  · simp only [weight]; omega
  · have := weightAll_unionParts _h; omega

/-- The members of several expressions. -/
def membersAll : List Expr → List Expr
  | [] => []
  | e :: es => e.members ++ membersAll es
termination_by es => 2 * weightAll es + 1
decreasing_by
  · simp only [weightAll]; omega
  · have := e.weight_pos; simp only [weightAll]; omega

end

end Source.Expr

open Source

namespace Program

/-- The class that an expression stands for in a module. -/
def resolveExpr? (p : Program) (m : SourceModule) : Expr → Option ClassId
  | .text s =>
    match _h : Expr.quoted? s with
    | some e => p.resolveExpr? m e
    | none => none
  | e => e.dotted?.bind (p.resolveName? m)
termination_by e => e.weight
decreasing_by exact Expr.weight_of_quoted _h

/-- Whether an expression is a subscript. -/
def isSubscript : Expr → Bool
  | .subscript .. => true
  | _ => false

/-- The classes that a member of a union stands for: the class that it names, for a subscript the
class in front of its brackets or else those between them that are no subscripts. -/
def resolveMember (p : Program) (m : SourceModule) (e : Expr) : List ClassId :=
  match p.resolveExpr? m e with
  | some c => [c]
  | none =>
    match e with
    | .subscript value index =>
      match p.resolveExpr? m value with
      | some c => [c]
      | none =>
        (((index.indices.flatMap Expr.members).filter (!isSubscript ·)).filterMap
          (p.resolveExpr? m))
    | _ => []

/-- The classes that an annotation names in a module, each once. -/
def resolveAnnotation (p : Program) (m : SourceModule) (e : Expr) : List ClassId :=
  dedupe (e.members.flatMap (p.resolveMember m))

/-! ## Texts that are never looked into -/

/-- The fault that keeps an expression from being followed. -/
def exprFault? : Expr → Option SourceFault
  | .text s =>
    match _h : Expr.quoted? s with
    | some e => exprFault? e
    | none => Expr.textFault? s
  | _ => none
termination_by e => e.weight
decreasing_by exact Expr.weight_of_quoted _h

/-- The fault that keeps a member of a union from being followed. -/
def memberFault? (p : Program) (m : SourceModule) : Expr → Option SourceFault
  | .subscript value index =>
    match exprFault? value, p.resolveExpr? m value with
    | some f, _ => some f
    | none, some _ => none
    | none, none => (index.indices.flatMap Expr.members).findSome? exprFault?
  | e => exprFault? e

/-- The fault that keeps an annotation from being followed. Its members are listed before one of
them is followed. -/
def annotationFault? (p : Program) (m : SourceModule) (e : Expr) : Option SourceFault :=
  (e.members.findSome? exprFault?).or (e.members.findSome? (p.memberFault? m))

end Program

end ArchModel
