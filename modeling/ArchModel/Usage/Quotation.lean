import ArchModel.Usage.Typing

/-!
# Quotations that stop a search

The search for usage follows the annotations of a class, the expressions that its methods call and
the bases of the classes whose methods are looked for. One that holds a text that is never looked
into stops it.

* `Program.classFault?` is the first such fault in a class.
* `Program.searchesFault?` is the first one that a search for a method meets.
-/

namespace ArchModel

open Source

namespace Program

/-- The annotations on parameters of a method and on what it returns, and on the names and fields
that it assigns to. -/
def methodHints (f : Function) : List Expr :=
  f.givenParams.filterMap (·.hint) ++ f.returns.toList ++
    f.sortedAssignments.filterMap fun (a, _) => match a with
      | .annotated (.name _) hint _ => some hint
      | .annotated target hint _ => target.selfAttribute?.map fun _ => hint
      | .plain .. => none

/-- The annotations in the body of a class and in its methods. What the constructor returns says
nothing. -/
def classHints (c : ClassInfo) : List Expr :=
  (c.decl.body.filterMap fun s => match s with
    | .assign (.annotated (.name _) hint _) _ => some hint
    | _ => none) ++
  c.constructorFirst.flatMap fun (name, f) =>
    methodHints (if name == constructorName && !f.isProperty then { f with returns := none } else f)

/-- The expressions that a method calls, and those of which it calls a member. -/
def calledExprs (f : Function) : List Expr :=
  f.sortedCalls.flatMap fun c => match c.func with
    | .member value _ => [value, c.func]
    | e => [e]

/-- The fault that stops the search in a class. -/
def classFault? (p : Program) (c : ClassInfo) : Option SourceFault :=
  match p.moduleOf? c with
  | none => none
  | some m =>
    match (classHints c).findSome? (p.annotationFault? m) with
    | some f => some f
    | none => (c.methods.values.flatMap calledExprs).findSome? exprFault?

/-- The fault that stops one of several searches for methods. -/
def searchesFault? (p : Program) (searches : List (ClassId × String)) : Option SourceFault :=
  if p.classes.values.any fun c => (baseFault? c).isSome then
    searches.findSome? fun (id, name) => p.methodFault? id name
  else none

end Program

end ArchModel
