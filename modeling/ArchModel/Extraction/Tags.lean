import ArchModel.Program.Index
import ArchModel.Tag.Docstring
import ArchModel.Tag.Parse

/-!
# Tags of declarations

Classes and functions carry tags in their docstrings.

* `DeclaredTags.ofBody` divides the docstring of a body and keeps the line of the source that its
  first line stands on.
* `Schema.component`, `Schema.group` and `Schema.relation` are the schemas of the tags that are
  read here.
-/

namespace ArchModel

open Text Source

/-- The tags of a declaration. -/
structure DeclaredTags where
  /-- The comment and the tag blocks. -/
  docstring : Docstring := {}
  /-- The line of the source that the first line of the divided docstring stands on. -/
  firstLine : Nat := 0
  deriving DecidableEq, Repr, Inhabited

namespace DeclaredTags

/-- The number of blank lines in front of a text. They are no lines of the divided docstring. -/
def leadingBlankLines (text : String) : Nat :=
  ((lines (expandTabs text)).takeWhile fun line => strip line = "").length

/-- The tags in the docstring of a body. -/
def ofBody (body : List Stmt) : DeclaredTags :=
  match docstring? body with
  | some (text, line) =>
    if text = "" then {}
    else { docstring := .split text, firstLine := line + leadingBlankLines text }
  | none => {}

/-- The blocks of a tag. -/
def named (t : DeclaredTags) (name : String) : List TagBlock :=
  t.docstring.blocks.filter (·.name == name)

/-- The line of the source that a block starts on. -/
def lineOf (t : DeclaredTags) (b : TagBlock) : Nat := t.firstLine + b.offset

end DeclaredTags

/-- The tag that makes a class a component. -/
def componentTag : String := "c4Component"

/-- The tag of a relation. -/
def relationTag : String := "c4Relation"

/-- The tag of the group of a component. -/
def groupTag : String := "c4Group"

namespace Schema

/-- The schema of the tag of a component: its name. -/
def component : Schema where
  args := [⟨.text, true⟩]
  params := .ofList [("description", .text), ("technology", .text), ("url", .text),
    ("tags", .list), ("properties", .block), ("perspectives", .block)]

/-- The schema of the tag of a group: its name or path. -/
def group : Schema where
  args := [⟨.text, false⟩]

/-- The schema of the tag of a relation: its target, its description and a technology. -/
def relation : Schema where
  args := [⟨.text, false⟩, ⟨.text, false⟩, ⟨.text, true⟩]
  params := .ofList [("technology", .text), ("url", .text), ("tags", .list),
    ("properties", .block)]

end Schema

/-- A place in the declaration of a class. -/
def ClassInfo.location (c : ClassInfo) (line : Nat) (method : Option String := none) : Location where
  file := c.path.text
  declaration := c.id.qualname
  line := line
  method := method

end ArchModel
