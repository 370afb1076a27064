import ArchModel.Report.Json

/-!
# Components and their relations

A component is a documented unit of architecture, backed by one class of the sources. It carries
the relations to other components that its author declares.

* `Location` is a place in the sources.
* `Component` and `Relation` are what the annotations of a class say; `report` is their form in
  reports.
* `Diagnostic` tells of a declaration that was passed over.
-/

namespace ArchModel

/-- A place in the sources. -/
structure Location where
  /-- The file. -/
  file : String
  /-- The declaration around the place. -/
  declaration : String
  /-- The line, counted from one; zero if no line is meant. -/
  line : Int
  /-- The method around the place, if it is in one. -/
  method : Option String := none
  deriving DecidableEq, Repr, Inhabited

namespace Location

/-- The short form of a place. -/
def text (l : Location) : String := l.file ++ ":" ++ toString l.line

/-- The form in reports. -/
def report (l : Location) : Json :=
  .object ([("file", .text l.file), ("declaration", .text l.declaration), ("line", .number l.line)]
    ++ match l.method with
      | some m => if m = "" then [] else [("method", .text m)]
      | none => [])

end Location

/-- The tag of a relation by direct usage. -/
def directTag : String := "DirectRelation"

/-- The tag of a relation by indirect usage. -/
def indirectTag : String := "IndirectRelation"

/-- The tag of a relation that nobody declared. -/
def undeclaredTag : String := "UndeclaredRelation"

/-- A relation to another component. -/
structure Relation where
  /-- The name of the component that has the relation. -/
  source : String
  /-- The name of what it is related to. -/
  target : String
  description : String
  /-- The place of the declaration. -/
  location : Location
  technology : Option String := none
  tags : List String := []
  url : Option String := none
  properties : Entries String String := ∅
  deriving DecidableEq, Repr, Inhabited

namespace Relation

/-- What makes two relations repetitions of each other. -/
def key (r : Relation) : String × String × String := (r.source, r.target, r.description)

/-- The form in reports. -/
def report (r : Relation) : Json := .object
  [("source", .text r.source), ("target", .text r.target), ("description", .text r.description),
    ("technology", .ofText? r.technology), ("tags", .ofTexts r.tags), ("url", .ofText? r.url),
    ("properties", .ofTextEntries r.properties), ("location", r.location.report)]

end Relation

/-- What a component means from a certain point of view. -/
structure Perspective where
  description : String
  value : Option String := none
  deriving DecidableEq, Repr, Inhabited

/-- The form in reports. -/
def Perspective.report (p : Perspective) : Json :=
  .object (("description", .text p.description) :: match p.value with
    | some v => [("value", .text v)]
    | none => [])

/-- A unit of architecture. -/
structure Component where
  name : String
  description : String
  /-- The place of the class. -/
  location : Location
  technology : Option String := none
  tags : List String := []
  group : Option String := none
  url : Option String := none
  properties : Entries String String := ∅
  perspectives : Entries String Perspective := ∅
  relations : List Relation := []
  deriving DecidableEq, Repr, Inhabited

namespace Component

/-- The form in reports. -/
def report (c : Component) : Json := .object
  [("name", .text c.name), ("description", .text c.description),
    ("technology", .ofText? c.technology), ("tags", .ofTexts c.tags), ("group", .ofText? c.group),
    ("url", .ofText? c.url), ("properties", .ofTextEntries c.properties),
    ("perspectives", .object (c.perspectives.toList.map fun (k, p) => (k, p.report))),
    ("location", c.location.report), ("relations", .ofList Relation.report c.relations)]

/-- The names of components. -/
def names (cs : List Component) : List String := cs.map (·.name)

/-- All relations of components, in order. -/
def allRelations (cs : List Component) : List Relation := cs.flatMap (·.relations)

theorem allRelations_cons (c : Component) (cs : List Component) :
    allRelations (c :: cs) = c.relations ++ allRelations cs := rfl

end Component

/-- A declaration that was passed over, and why. -/
structure Diagnostic where
  location : Location
  message : String
  /-- The kind of the reason. -/
  error : String
  deriving DecidableEq, Repr, Inhabited

namespace Diagnostic

/-- The short form. -/
def text (d : Diagnostic) : String := d.location.text ++ ": " ++ d.message

/-- The form in reports. -/
def report (d : Diagnostic) : Json := .object
  [("location", d.location.report), ("message", .text d.message), ("error", .text d.error)]

end Diagnostic

end ArchModel
