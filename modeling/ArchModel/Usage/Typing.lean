import ArchModel.Program.Method
import ArchModel.Usage.Evidence

/-!
# Types of fields and values

What classes the fields of an object and the local names of a method may hold, as far as
annotations, constructions and stored parameters tell.

* `Program.fields` are the fields of a class with their types: annotated in its body, given by its
  properties, or assigned by its methods, the constructor first.
* `Program.valueTypes` are the classes of an assigned value.
-/

namespace ArchModel

open Source Text

namespace Source.FunctionOf

/-- Whether a function has a decorator of one of some names. -/
def hasDecorator (f : Function) (names : List String) : Bool :=
  f.decorators.any fun d =>
    let called := match d with
      | .call func _ _ => func
      | e => e
    match called.dotted? with
    | some dotted => names.contains (Expr.lastName dotted)
    | none => false

/-- Whether a function is read like a field. -/
def isProperty (f : Function) : Bool := f.hasDecorator ["property", "cached_property"]

/-- The parameters of a method that its callers give: not the object itself. -/
def givenParams (f : Function) : List Param :=
  if f.hasDecorator ["staticmethod"] then f.params.all
  else { f.params with positional := f.params.positional.drop 1 }.all

end Source.FunctionOf

/-- A field of the objects of a class. -/
structure Field where
  /-- The classes that it may hold. -/
  types : List ClassId
  line : Nat
  /-- The method that gives it, if one does. -/
  method : Option String := none
  deriving DecidableEq, Repr, Inhabited

/-- The fields of a class by name. -/
abbrev Fields := Entries String Field

namespace Program

/-- The classes that an annotation names, none without an annotation. -/
def hinted (p : Program) (m : SourceModule) (hint : Option Expr) : List ClassId :=
  match hint with
  | some e => p.resolveAnnotation m e
  | none => []

/-- The classes of a value: those of a local name, that of a construction, those of a field. -/
def valueTypes (p : Program) (m : SourceModule) (locals : String → List ClassId)
    (fields : Fields) : Expr → List ClassId
  | .name n => locals n
  | .call func _ _ => (p.resolveExpr? m func).toList
  | e =>
    match e.selfAttribute?.bind fields.get? with
    | some f => f.types
    | none => []

/-- The classes of the parameters of a method by name. -/
def paramTypes (p : Program) (m : SourceModule) (f : Function) : Entries String (List ClassId) :=
  .ofList (f.givenParams.map fun a => (a.name, p.hinted m a.hint))

/-- The fields annotated in the body of a class. -/
def annotatedFields (p : Program) (m : SourceModule) (body : List Stmt) : Fields :=
  body.foldl (fun fields s => match s with
    | .assign (.annotated (.name n) hint _) place =>
      let types := p.resolveAnnotation m hint
      if types.isEmpty then fields else fields.insertIfNew n { types, line := place.line }
    | _ => fields) ∅

/-- The fields with those that a statement of a method assigns to. -/
def assignFields (p : Program) (m : SourceModule) (method : String)
    (locals : String → List ClassId) (fields : Fields) (a : Assignment × Position) : Fields :=
  let (targets, types) := match a.1 with
    | .plain targets value => (targets, p.valueTypes m locals ∅ value)
    | .annotated target hint _ => ([target], p.resolveAnnotation m hint)
  if types.isEmpty then fields
  else (targets.filterMap Expr.selfAttribute?).foldl
    (fun fields name => fields.insertIfNew name
      { types, line := a.2.line, method := some method }) fields

/-- The fields with those that a method gives: itself if it is read like a field, else those that it
assigns to. -/
def methodFields (p : Program) (m : SourceModule) (fields : Fields) (f : String × Function) :
    Fields :=
  let (name, f) := f
  if f.isProperty then
    let types := p.hinted m f.returns
    if types.isEmpty then fields
    else fields.insertIfNew name { types, line := f.line, method := some name }
  else
    let params := p.paramTypes m f
    f.sortedAssignments.foldl
      (p.assignFields m name fun n => (params.get? n).getD []) fields

/-- The module of a class. -/
def moduleOf? (p : Program) (c : ClassInfo) : Option SourceModule := p.modules.get? c.id.module

/-- The fields of a class. -/
def fields (p : Program) (c : ClassInfo) : Fields :=
  match p.moduleOf? c with
  | some m => c.constructorFirst.foldl (p.methodFields m) (p.annotatedFields m c.decl.body)
  | none => ∅

end Program

end ArchModel
