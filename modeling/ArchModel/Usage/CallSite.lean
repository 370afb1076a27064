import ArchModel.Usage.Typing

/-!
# Call sites

A call site is a place in a method where a method of a known class is called, or an object of one
is made.

* `Program.localTypes` are the classes of the local names of a method. The order of statements does
  not count: the last assignment of a known type wins.
* `Program.callSites` lists the call sites of a method in the order of their places.
-/

namespace ArchModel

open Source

/-- A place where a method of a class is called. -/
structure CallSite where
  /-- The class. -/
  target : ClassId
  /-- The method. -/
  method : String
  receiver : Receiver
  line : Nat
  deriving DecidableEq, Repr, Inhabited

/-- The classes of local names, and how the objects came there. -/
abbrev Locals := Entries String (List ClassId × Receiver)

namespace Locals

/-- The classes of a local name. -/
def types (l : Locals) (name : String) : List ClassId := ((l.get? name).map (·.1)).getD []

/-- The local names with one set, if its classes are known. -/
def set (l : Locals) (name : String) (types : List ClassId) (receiver : Receiver) : Locals :=
  if types.isEmpty then l else l.insert name (types, receiver)

end Locals

namespace Program

/-- The local names with those that a statement assigns to. -/
def assignLocals (p : Program) (m : SourceModule) (fields : Fields) (locals : Locals)
    (a : Assignment) : Locals :=
  match a with
  | .annotated (.name n) hint _ => locals.set n (p.resolveAnnotation m hint) .localName
  | .annotated .. => locals
  | .plain targets value =>
    let types := p.valueTypes m locals.types fields value
    targets.foldl (fun locals target => match target with
      | .name n => locals.set n types .localName
      | _ => locals) locals

/-- The local names of a method. -/
def localTypes (p : Program) (m : SourceModule) (fields : Fields) (f : Function) : Locals :=
  let params : Locals := f.givenParams.foldl
    (fun locals a => locals.set a.name (p.hinted m a.hint) .parameter) ∅
  f.sortedAssignments.foldl (fun locals a => p.assignLocals m fields locals a.1) params

/-- The classes of the object whose method is called, and how it was obtained. The object that the
method belongs to is none. -/
def receiverTypes (p : Program) (m : SourceModule) (fields : Fields) (locals : Locals)
    (e : Expr) : List ClassId × Receiver :=
  match e.selfAttribute? with
  | some a => (((fields.get? a).map (·.types)).getD [], .field)
  | none =>
    let referenced := fun e => ((p.resolveExpr? m e).toList, Receiver.classItself)
    match e with
    | .name n =>
      if n = "self" ∨ n = "cls" then ([], .field) else (locals.get? n).getD (referenced e)
    | .call func _ _ => ((p.resolveExpr? m func).toList, .newObject)
    | e => referenced e

/-- The call sites that a call is: a method of an object of known classes, or else a construction.
An object that is made to call one of its methods counts by that call alone. -/
def sitesOf (p : Program) (m : SourceModule) (fields : Fields) (locals : Locals) (c : Call) :
    List CallSite :=
  let byMethod := match c.func with
    | .member value attr =>
      let (types, receiver) := p.receiverTypes m fields locals value
      types.map fun t => ⟨t, attr, receiver, c.place.line⟩
    | _ => []
  if !byMethod.isEmpty then byMethod
  else if c.isReceiver then []
  else (p.resolveExpr? m c.func).toList.map fun t => ⟨t, constructorName, .newObject, c.place.line⟩

/-- The call sites of a method of a class whose objects have the given fields. -/
def callSitesWith (p : Program) (fields : Fields) (owner : ClassInfo) (f : Function) :
    List CallSite :=
  match p.moduleOf? owner with
  | some m => f.sortedCalls.flatMap (p.sitesOf m fields (p.localTypes m fields f))
  | none => []

/-- The call sites of a method of a class. -/
def callSites (p : Program) (owner : ClassInfo) (f : Function) : List CallSite :=
  p.callSitesWith (p.fields owner) owner f

end Program

end ArchModel
