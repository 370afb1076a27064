import ArchModel.Entries
import ArchModel.Text.Lines

/-!
# References by name

The containers of a workspace are analysed apart from each other. All that one knows of another is
names: its own and those of its components.

* `Reference.ofText` reads a text as a reference to a container or to a component of one.
* `ScopeNames.resolve?` is the reference of a text that names something in the workspace.
-/

namespace ArchModel

open Text

/-- A reference to a container, or to a component of it. -/
structure Reference where
  container : String
  component : Option String
  deriving DecidableEq, Repr, Inhabited

/-- The reference that a text is: the part in front of its first dot is the container, the rest the
component. -/
def Reference.ofText (s : String) : Reference :=
  let (container, component) := cut '.' s
  ⟨container, if component = "" then none else some component⟩

/-- The names of containers, each with those of its components. -/
structure ScopeNames where
  entries : Entries String (List String)
  deriving DecidableEq, Repr, Inhabited

namespace ScopeNames

/-- The table of some containers. Of two with one name the last one counts. -/
def ofList (l : List (String × List String)) : ScopeNames := ⟨.ofList l⟩

/-- The names of the containers. -/
def containers (t : ScopeNames) : List String := t.entries.keys

/-- Whether a container has a name. -/
def holds (t : ScopeNames) (container : String) : Bool := t.entries.contains container

/-- Whether a reference leads to a container, or to a component that its container has. -/
def knows (t : ScopeNames) (r : Reference) : Bool :=
  match t.entries.get? r.container, r.component with
  | none, _ => false
  | some _, none => true
  | some components, some component => components.contains component

/-- The reference of a text, if it leads to something. -/
def resolve? (t : ScopeNames) (s : String) : Option Reference :=
  some (Reference.ofText s) |>.filter t.knows

end ScopeNames

end ArchModel
