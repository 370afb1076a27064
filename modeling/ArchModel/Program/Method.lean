import ArchModel.Program.Annotation

/-!
# Finding methods

A method is looked for on a class and then on its bases, nearer ones first and those of one
distance in the order in which they are written.

* `Program.bases` are the classes that the bases of a class stand for.
* `Program.method?` is the first class that declares a method, and the method.
* `Program.methodFault?` says what stops the search: a base that is a text which is never looked
  into. `Program.searchMethod` is what the search comes to with and without such a base.
-/

namespace ArchModel

open Source

namespace Program

/-- The classes that the bases of a class stand for. -/
def bases (p : Program) (c : ClassInfo) : List ClassId :=
  match p.modules.get? c.id.module with
  | some m => c.decl.bases.filterMap (p.resolveExpr? m)
  | none => []

/-- The number of bases of all classes. -/
def baseCount (p : Program) : Nat :=
  p.classes.values.foldl (fun n c => n + c.decl.bases.length) 0

/-- The first class that declares a method, among those waiting and their bases; `seen` were passed
before. -/
def methodFrom? (p : Program) (name : String) :
    Nat → List ClassId → List ClassId → Option (ClassInfo × Function)
  | 0, _, _ => none
  | _ + 1, _, [] => none
  | fuel + 1, seen, id :: waiting =>
    if id ∈ seen then p.methodFrom? name fuel seen waiting
    else match p.class? id with
      | none => p.methodFrom? name fuel (id :: seen) waiting
      | some c => match c.methods.get? name with
        | some f => some (c, f)
        | none => p.methodFrom? name fuel (id :: seen) (waiting ++ p.bases c)

/-- The first class that declares a method, among a class and its bases, and the method. Each class
puts its bases on the way once, so the number of bases bounds the search. -/
def method? (p : Program) (id : ClassId) (name : String) : Option (ClassInfo × Function) :=
  p.methodFrom? name (p.baseCount + 2) [] [id]

/-! ## Bases that are never looked into -/

/-- The fault of the first base of a class that is never looked into. -/
def baseFault? (c : ClassInfo) : Option SourceFault := c.decl.bases.findSome? exprFault?

/-- The classes on the way that do not declare a method, among those waiting and their bases; `seen`
were passed before. -/
def passedFrom (p : Program) (name : String) : Nat → List ClassId → List ClassId → List ClassInfo
  | 0, _, _ => []
  | _ + 1, _, [] => []
  | fuel + 1, seen, id :: waiting =>
    if id ∈ seen then p.passedFrom name fuel seen waiting
    else match p.class? id with
      | none => p.passedFrom name fuel (id :: seen) waiting
      | some c =>
        if c.methods.contains name then []
        else c :: p.passedFrom name fuel (id :: seen) (waiting ++ p.bases c)

/-- The fault that stops the search for a method: that of the first class on the way that has
one. -/
def methodFault? (p : Program) (id : ClassId) (name : String) : Option SourceFault :=
  (p.passedFrom name (p.baseCount + 2) [] [id]).findSome? baseFault?

/-- What the search for a method comes to. -/
def searchMethod (p : Program) (id : ClassId) (name : String) :
    Except SourceFault (Option (ClassInfo × Function)) :=
  match p.methodFault? id name with
  | some f => .error f
  | none => .ok (p.method? id name)

end Program

end ArchModel
