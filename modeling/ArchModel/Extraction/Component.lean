import ArchModel.Extraction.Tags
import ArchModel.Group.Levels
import ArchModel.Config.Error

/-!
# Reading components off classes

* `ClassInfo.component` reads the component that a class declares, if it declares one.
* `GroupRules.check` says whether a component may name a group.
* `DeclarationFault` is what makes a declaration unusable.
-/

namespace ArchModel

open Text

/-- What is wrong with a declaration. -/
inductive DeclarationFault
  | schema (e : SchemaError)
  | invalidName (name : String)
  | invalidGroupPath (group segment : String)
  | undeclaredGroupPath (group : String)
  | undeclaredGroup (group : String)
  /-- A relation tag of a component cannot be read. -/
  | relation (source : String) (e : SchemaError)
  deriving DecidableEq, Repr

namespace DeclarationFault

/-- The wording of a fault. -/
def message : DeclarationFault → String
  | schema e => e.message
  | invalidName name => "Invalid component name \"" ++ name ++
      "\": only letters, digits, underscores, spaces and hyphens are allowed"
  | invalidGroupPath group segment => "Invalid group path \"" ++ group ++ "\": segment \"" ++
      segment ++ "\" may only contain letters, digits, spaces and hyphens"
  | undeclaredGroupPath group => "Group path \"" ++ group ++
      "\" is not declared in the configuration"
  | undeclaredGroup group => "Group \"" ++ group ++ "\" is not declared in the configuration"
  | relation source e => "Invalid @" ++ relationTag ++ " on " ++ source ++ ": " ++ e.message

/-- The kind of a fault. -/
def kind : DeclarationFault → String
  | schema _ => "SchemaError"
  | invalidName _ => "InvalidNameError"
  | invalidGroupPath .. => "InvalidGroupPathError"
  | undeclaredGroupPath _ | undeclaredGroup _ => "UndeclaredGroupError"
  | relation .. => "ExtractionError"

end DeclarationFault

/-- A fault of a declaration, with its place if it has one of its own. -/
structure DeclarationError where
  fault : DeclarationFault
  location : Option Location
  deriving DecidableEq, Repr

/-- The groups that a component may name. -/
structure GroupRules where
  groups : Groups := {}
  policy : GroupPolicy := .path
  deriving Inhabited

namespace GroupRules

/-- Whether a component may name a group: under the flat policy any configured name, under the path
policy a path of well-formed names that is configured, if groups are configured at all. -/
def check (r : GroupRules) (group : String) : Except DeclarationFault Unit :=
  match r.policy with
  | .flat => if r.groups.names.contains group then .ok () else .error (.undeclaredGroup group)
  | .path =>
    match (split '/' group).find? (!isGroupName ·) with
    | some segment => .error (.invalidGroupPath group segment)
    | none =>
      if !r.groups.isEmpty && !r.groups.paths.contains group then
        .error (.undeclaredGroupPath group)
      else .ok ()

end GroupRules

/-- Whether a text may be the name of a component: word characters, blanks and hyphens. -/
def isComponentName (name : String) : Bool :=
  !name.isEmpty && name.toList.all fun c => isWord c || isBlank c || c == '-'

/-- The perspectives that entries stand for: behind a bar stands a value. -/
def perspectivesOf (entries : Entries String String) : Entries String Perspective :=
  entries.mapValues fun text =>
    let (description, value) := cut '|' text
    let value := strip value
    { description := strip description, value := if value = "" then none else some value }

namespace ClassInfo

/-- The tags of a class. -/
def tags (c : ClassInfo) : DeclaredTags := .ofBody c.decl.body

/-- Whether a class declares a component. -/
def declaresComponent (c : ClassInfo) : Bool := !(c.tags.named componentTag).isEmpty

/-- The group that a class names, if it names one. -/
def group (c : ClassInfo) (rules : GroupRules) : Except DeclarationError (Option String) :=
  match (c.tags.named groupTag).head? with
  | none => .ok none
  | some block => do
    let tag ← (Schema.group.parse block.content).mapError fun e => ⟨.schema e, none⟩
    match tag.arg 0 with
    | none => return none
    | some group =>
      let group := strip group
      (rules.check group).mapError fun f => ⟨f, some (c.location (c.tags.lineOf block))⟩
      return some group

/-- The component that a class declares, without its relations; nothing if it declares none. -/
def component (c : ClassInfo) (rules : GroupRules) :
    Except DeclarationError (Option Component) :=
  match (c.tags.named componentTag).head? with
  | none => .ok none
  | some block => do
    let location := c.location c.decl.line
    let tag ← (Schema.component.parse block.content).mapError fun e => ⟨.schema e, none⟩
    let name := strip ((tag.arg 0).getD c.decl.name)
    if !isComponentName name then throw ⟨.invalidName name, some location⟩
    let group ← c.group rules
    return some {
      name
      description := (tag.paramText "description").getD c.tags.docstring.comment
      location
      technology := tag.paramText "technology"
      tags := dedupe (tag.paramList "tags")
      group
      url := tag.paramText "url"
      properties := tag.paramBlock "properties"
      perspectives := perspectivesOf (tag.paramBlock "perspectives") }

end ClassInfo

end ArchModel
