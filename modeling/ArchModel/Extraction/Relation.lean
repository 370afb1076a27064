import ArchModel.Extraction.Component

/-!
# Reading relations off classes

Relations are declared on a class, on its constructor and on its other methods. A relation declared
on a method is one of the class; the method is part of its place only.

* `ClassInfo.relationTags` lists the tags in the order in which they are read.
* `ClassInfo.relations` reads each of them: a relation, or what is wrong with the tag.
-/

namespace ArchModel

open Source

/-- A tag that declares a relation. -/
structure RelationTag where
  /-- The content of the tag. -/
  content : String
  /-- The place of the tag. -/
  location : Location
  deriving DecidableEq, Repr, Inhabited

namespace ClassInfo

/-- The relation tags in a body. -/
def relationTagsIn (c : ClassInfo) (method : Option String) (body : List Stmt) :
    List RelationTag :=
  let tags := DeclaredTags.ofBody body
  (tags.named relationTag).map fun b => ⟨b.content, c.location (tags.lineOf b) method⟩

/-- The relation tags of a class: those of the class itself, of its constructor, of its other
methods. -/
def relationTags (c : ClassInfo) : List RelationTag :=
  c.relationTagsIn none c.decl.body ++
    c.constructorFirst.flatMap fun (name, f) => c.relationTagsIn (some name) f.body

/-- Whether a class declares relations. -/
def declaresRelation (c : ClassInfo) : Bool := !c.relationTags.isEmpty

end ClassInfo

/-- The relation of a component that a tag declares. -/
def RelationTag.read (t : RelationTag) (source : String) : Except DeclarationError Relation :=
  match Schema.relation.parse t.content with
  | .error e => .error ⟨.relation source e, some t.location⟩
  | .ok tag => .ok
    { source
      target := (tag.arg 0).getD ""
      description := (tag.arg 1).getD ""
      location := t.location
      technology := tag.paramText "technology" <|> tag.arg 2
      tags := tag.paramList "tags"
      url := tag.paramText "url"
      properties := tag.paramBlock "properties" }

namespace ClassInfo

/-- What the relation tags of a class stand for, `source` being the name of the component. -/
def relations (c : ClassInfo) (source : String) : List (Except DeclarationError Relation) :=
  c.relationTags.map (·.read source)

/-- The relations of a class up to the first tag that is none. -/
def relationsStrict (c : ClassInfo) (source : String) : Except DeclarationError (List Relation) :=
  (c.relations source).mapM fun r => r

end ClassInfo

/-- The diagnostic for a relation tag that cannot be read. -/
def DeclarationError.relationDiagnostic (e : DeclarationError) : Diagnostic where
  location := e.location.getD default
  message := e.fault.message
  error := "SchemaError"

/-- The relations among what was read. -/
def RelationTag.relations (rs : List (Except DeclarationError Relation)) : List Relation :=
  rs.filterMap fun r => match r with
    | .ok r => some r
    | .error _ => none

/-- The faults among what was read. -/
def RelationTag.errors (rs : List (Except DeclarationError Relation)) : List DeclarationError :=
  rs.filterMap fun r => match r with
    | .ok _ => none
    | .error e => some e

end ArchModel
