import ArchModel.Config.Container
import ArchModel.Log.Record
import ArchModel.Model.Component
import ArchModel.Workspace.Names
import ArchModel.Workspace.Technology

/-!
# Relations across containers

A relation whose target is not a component of its own container may lead into another container of
the workspace. It is looked for there by name.

* `crossScopeIssues` are the relations that name a container but no component of it.
* `containerLinks` are the links between containers that follow from configured relations and from
  those of components.
-/

namespace ArchModel

/-- A container and its components. -/
structure Scope where
  config : ContainerConfig
  components : List Component
  deriving Inhabited

namespace Scope

/-- The name of the container. -/
def name (s : Scope) : String := s.config.name

/-- The relations of components whose targets are no components of the container. -/
def outgoing (s : Scope) : List Relation :=
  (Component.allRelations s.components).filter fun r =>
    !(Component.names s.components).contains r.target

end Scope

/-- The names in scopes. -/
def ScopeNames.ofScopes (scopes : List Scope) : ScopeNames :=
  .ofList (scopes.map fun s => (s.name, Component.names s.components))

/-! ## Issues -/

/-- A relation of a container into another one that lacks the component. -/
structure CrossScopeIssue where
  container : String
  relation : Relation
  deriving DecidableEq, Repr, Inhabited

namespace CrossScopeIssue

/-- The wording of an issue. -/
def message (i : CrossScopeIssue) : String :=
  "Relationship from \"" ++ i.relation.source ++ "\" to \"" ++ i.relation.target ++
    "\": container \"" ++ (Reference.ofText i.relation.target).container ++
    "\" has no such component"

/-- The form in reports. -/
def report (i : CrossScopeIssue) : Json := .object
  [("container", .text i.container), ("relation", i.relation.report), ("message", .text i.message)]

/-- What the log says of an issue. -/
def record (i : CrossScopeIssue) : LogRecord :=
  ⟨"workspace", .warning, i.container ++ ": " ++ i.message⟩

end CrossScopeIssue

/-- Whether a target of a scope names another container of a table, but nothing in it. -/
def ScopeNames.misses (t : ScopeNames) (s : Scope) (target : String) : Bool :=
  let holder := (Reference.ofText target).container
  holder ≠ s.name && t.holds holder && (t.resolve? target).isNone

/-- The issues of a scope among the scopes of a table. -/
def Scope.issues (t : ScopeNames) (s : Scope) : List CrossScopeIssue :=
  (s.outgoing.filter fun r => t.misses s r.target).map (⟨s.name, ·⟩)

/-- The relations that name a container of the workspace but no component of it. -/
def crossScopeIssues (scopes : List Scope) : List CrossScopeIssue :=
  scopes.flatMap (Scope.issues (.ofScopes scopes))

/-! ## Links -/

/-- A relation between two containers. -/
structure ContainerLink where
  source : String
  target : String
  description : String
  technology : Option String
  deriving DecidableEq, Repr, Inhabited

namespace ContainerLink

/-- The technology of a link in its key. -/
def technologyWord (technology : Option String) : String :=
  match technology with
  | none | some "" => "unknown"
  | some t => t

/-- Of the links that have one key the first one counts. -/
def key (l : ContainerLink) : String :=
  l.source ++ "->" ++ l.target ++ ":" ++ technologyWord l.technology

/-- The form in reports. -/
def report (l : ContainerLink) : Json := .object
  [("source", .text l.source), ("target", .text l.target), ("description", .text l.description),
    ("technology", .ofText? l.technology)]

end ContainerLink

/-- The link that a target of a scope gives rise to, if it leads into another container. A link
without a description is described by its technology. -/
def ScopeNames.link? (t : ScopeNames) (s : Scope) (target : String) (technology : Option String)
    (description : String := "") : Option ContainerLink :=
  match t.resolve? target with
  | none => none
  | some r =>
    if r.container = s.name then none
    else some
      { source := s.name
        target := r.container
        description := if description = "" then describeTechnology technology else description
        technology }

/-- The links of a scope among the scopes of a table: those that are configured, then those of its
components. -/
def Scope.links (t : ScopeNames) (s : Scope) : List ContainerLink :=
  s.config.relations.filterMap (fun r => t.link? s r.target r.technology r.description) ++
    s.outgoing.filterMap fun r => t.link? s r.target r.technology

/-- The links between containers, one for each key. -/
def containerLinks (scopes : List Scope) : List ContainerLink :=
  let all := scopes.flatMap (Scope.links (.ofScopes scopes))
  (all.foldl (fun (kept : Entries String ContainerLink) l => kept.insertIfNew l.key l) ∅).values

/-- What the log says of links. -/
def linkRecord (links : List ContainerLink) : LogRecord :=
  ⟨"workspace", .info, "Derived " ++ toString links.length ++ " container relations"⟩

end ArchModel
