import ArchModel.Config.Error
import ArchModel.Log.Record
import ArchModel.Model.Component

/-!
# The tree of groups

Components are presented in a tree of groups. Every configured group is in the tree, whether
components belong to it or not, and components without a group stand in a node of their own in
front.

* `GroupNode.updateAt` changes the node at the end of a chain of names and makes the nodes that are
  missing on the way.
* `GroupNode.firstNamed?` finds a node by its name alone.
* `buildGroups` places the components; those that name a group which is not configured are all
  listed in one error.
-/

namespace ArchModel

open Text

/-- A node of the tree of groups. -/
inductive GroupNode
  /-- A group with its name, the chain of names that leads to it, the names of its components and
  the groups below. -/
  | node (name path : String) (components : List String) (subgroups : List GroupNode)
  deriving Inhabited, Repr

namespace GroupNode

/-- The name of a group. -/
def name : GroupNode → String
  | node n _ _ _ => n

/-- The chain of names that leads to a group, joined by slashes. -/
def path : GroupNode → String
  | node _ p _ _ => p

/-- The names of the components of a group. -/
def components : GroupNode → List String
  | node _ _ cs _ => cs

/-- The groups below. -/
def subgroups : GroupNode → List GroupNode
  | node _ _ _ gs => gs

/-- The group below of a name. -/
def child? (g : GroupNode) (name : String) : Option GroupNode :=
  g.subgroups.find? (·.name == name)

/-- The group with a component more. -/
def addComponent (component : String) : GroupNode → GroupNode
  | node n p cs gs => node n p (cs ++ [component]) gs

/-- The group with other groups below. -/
def withSubgroups (gs : List GroupNode) : GroupNode → GroupNode
  | node n p cs _ => node n p cs gs

/-- The name of the node for components without a group. -/
def noGroup : String := "(no group)"

/-- Change the first group of a name in a level; a new one is appended if there is none. -/
def updateNamed (name path : String) (f : GroupNode → GroupNode) :
    List GroupNode → List GroupNode
  | [] => [f (node name path [] [])]
  | g :: gs => if g.name = name then f g :: gs else g :: updateNamed name path f gs

/-- Change the group at the end of a chain of names, which starts below the chain `above`; groups
that are missing are appended on the way. -/
def updateAt (f : GroupNode → GroupNode) (above : List String) :
    List String → List GroupNode → List GroupNode
  | [], gs => gs
  | [name], gs => updateNamed name (join "/" (above ++ [name])) f gs
  | name :: rest, gs =>
    updateNamed name (join "/" (above ++ [name]))
      (fun g => g.withSubgroups (updateAt f (above ++ [name]) rest g.subgroups)) gs

/-- The groups with the group at the end of a chain of names among them. -/
def ensure (chain : List String) (gs : List GroupNode) : List GroupNode :=
  updateAt id [] chain gs

mutual

/-- The group with the first group of a name, at or below it, changed; a group comes before those
below it. -/
def updateFirst? (name : String) (f : GroupNode → GroupNode) : GroupNode → Option GroupNode
  | node n p cs gs =>
    if n = name then some (f (node n p cs gs))
    else (updateFirstIn? name f gs).map fun gs => node n p cs gs

/-- The groups with the first group of a name, among or below them, changed. -/
def updateFirstIn? (name : String) (f : GroupNode → GroupNode) :
    List GroupNode → Option (List GroupNode)
  | [] => none
  | g :: gs =>
    match updateFirst? name f g with
    | some g => some (g :: gs)
    | none => (updateFirstIn? name f gs).map (g :: ·)

end

mutual

/-- The form in reports. -/
def report : GroupNode → Json
  | node n p cs gs => .object [("name", .text n), ("path", .text p), ("components", .ofTexts cs),
      ("subgroups", .array (reports gs))]

/-- The forms of several groups in reports. -/
def reports : List GroupNode → List Json
  | [] => []
  | g :: gs => report g :: reports gs

end

end GroupNode

/-- The state of placing components. -/
structure GroupPlacement where
  /-- The names of the components without a group. -/
  ungrouped : List String := []
  /-- The outermost groups. -/
  roots : List GroupNode := []
  /-- The components that name no configured group. -/
  unknown : List ConfigFault := []

namespace GroupPlacement

/-- Place a component in its group. -/
def place (groups : Groups) (policy : GroupPolicy) (s : GroupPlacement) (c : Component) :
    GroupPlacement :=
  match nonempty c.group with
  | none => { s with ungrouped := s.ungrouped ++ [c.name] }
  | some group =>
    let add := GroupNode.addComponent c.name
    let roots? := match policy with
      | .flat =>
        match GroupNode.updateFirstIn? group add s.roots with
        | some roots => some roots
        | none => if groups.isEmpty then some (GroupNode.updateAt add [] [group] s.roots) else none
      | .path =>
        if !groups.isEmpty && !groups.paths.contains group then none
        else some (GroupNode.updateAt add [] (split '/' group) s.roots)
    match roots? with
    | some roots => { s with roots }
    | none => { s with unknown := s.unknown ++ [.unknownGroup c.name group] }
where
  /-- A text that is not empty. -/
  nonempty (s : Option String) : Option String := s.filter (· ≠ "")

end GroupPlacement

/-- The tree of groups: the node for components without a group, then the outermost groups. -/
def buildGroups (components : List Component) (groups : Groups) (policy : GroupPolicy) :
    Except ConfigError (List GroupNode) :=
  let roots := groups.walk.foldl (fun gs (chain, _) => GroupNode.ensure chain gs) []
  let s := components.foldl (GroupPlacement.place groups policy) { roots }
  if s.unknown.isEmpty then .ok (.node GroupNode.noGroup "" s.ungrouped [] :: s.roots)
  else .error { problem := .unknownGroups, faults := s.unknown }

/-- What the log says of a tree of groups. The node for components without a group does not
count. -/
def groupRecord (tree : List GroupNode) : LogRecord :=
  ⟨"groups", .debug,
    "Built group tree with " ++ toString (tree.length - 1) ++ " top-level groups"⟩

end ArchModel
