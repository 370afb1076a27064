import ArchModel.Model.Component

/-!
# Evidence of usage

A piece of evidence is a place in the sources where one component refers to another.

* `UsageKind` says what the place is, `Receiver` how the object was obtained whose method is called.
* `Evidence.isDirect` holds of evidence that a component holds another one itself.
-/

namespace ArchModel

/-- What a place refers to another component by. -/
inductive UsageKind
  /-- The type of a parameter of the constructor. -/
  | constructor
  /-- The type of a stored field. -/
  | field
  /-- The type of a parameter of another method. -/
  | methodParam
  /-- The type of the result of a method. -/
  | methodReturn
  /-- A call of a method. -/
  | methodCall
  deriving DecidableEq, Repr, Inhabited

namespace UsageKind

/-- The word for a kind. -/
def word : UsageKind → String
  | constructor => "constructor"
  | field => "field"
  | methodParam => "method-param"
  | methodReturn => "method-return"
  | methodCall => "method-call"

/-- All kinds. -/
def all : List UsageKind := [constructor, field, methodParam, methodReturn, methodCall]

/-- The kind of a word. -/
def ofWord? (s : String) : Option UsageKind := all.find? (·.word = s)

end UsageKind

/-- How the object was obtained whose method is called. -/
inductive Receiver
  | field
  | parameter
  | localName
  /-- It was made for the call. -/
  | newObject
  /-- It is the class itself. -/
  | classItself
  deriving DecidableEq, Repr, Inhabited

namespace Receiver

/-- The word for a receiver. -/
def word : Receiver → String
  | field => "field"
  | parameter => "parameter"
  | localName => "local"
  | newObject => "instance"
  | classItself => "class"

/-- All receivers. -/
def all : List Receiver := [field, parameter, localName, newObject, classItself]

/-- The receiver of a word. -/
def ofWord? (s : String) : Option Receiver := all.find? (·.word = s)

end Receiver

/-- A place where one component refers to another. -/
structure Evidence where
  /-- The name of the component that refers. -/
  source : String
  /-- The name of the component that is referred to. -/
  target : String
  kind : UsageKind
  location : Location
  /-- The methods that lead to a call. -/
  callChain : List String := []
  /-- How the object was obtained whose method is called. -/
  receiver : Option Receiver := none
  deriving DecidableEq, Repr, Inhabited

namespace Evidence

/-- Whether a component holds the other one itself: it takes it, stores it, or calls what it
stores. -/
def isDirect (e : Evidence) : Bool :=
  match e.kind with
  | .constructor | .field => true
  | .methodCall => e.receiver == some .field
  | _ => false

/-- The form in reports. -/
def report (e : Evidence) : Json := .object
  ([("source", .text e.source), ("target", .text e.target), ("kind", .text e.kind.word),
    ("location", e.location.report)] ++
  if e.kind = .methodCall then
    [("callChain", .ofTexts e.callChain), ("receiver", .ofText? (e.receiver.map (·.word)))]
  else [])

end Evidence

end ArchModel
