import ArchModel.Config.Error

/-!
# The configuration of a container

A container is one scope of analysis: a directory with its source files, its groups, and the
elements outside of it that its components may be related to.

`ContainerConfig.check` collects every rule that a configuration breaks.
-/

namespace ArchModel

open Text

/-- An element outside the scope; relations to it need no usage. -/
structure ExternalElement where
  name : String
  type : String := "softwareSystem"
  description : String := ""
  technology : Option String := none
  tags : List String := []
  deriving DecidableEq, Repr, Inhabited

/-- A relation of the container as a whole. -/
structure ContainerRelation where
  target : String
  description : String := ""
  technology : Option String := none
  tags : List String := []
  deriving DecidableEq, Repr, Inhabited

/-- The patterns of a container that names none. -/
def defaultSource : List String := ["**/*.py"]

/-- The configuration of a container. -/
structure ContainerConfig where
  name : String
  /-- The directory of the sources. -/
  root : Path := {}
  description : String := ""
  technology : Option String := none
  tags : List String := []
  properties : Entries String String := ∅
  /-- The patterns that select the sources. -/
  source : List String := defaultSource
  groups : Groups := {}
  policy : GroupPolicy := .path
  external : Entries String ExternalElement := ∅
  relations : List ContainerRelation := []
  deriving Inhabited

namespace ContainerConfig

/-- The names of the targets of the container's own relations. -/
def relationTargets (c : ContainerConfig) : List String := c.relations.map (·.target)

/-- A pattern without the exclamation marks in front, divided into its segments. -/
def patternSegments (pattern : String) : List String :=
  let cs := pattern.toList.dropWhile (· = '!')
  split '/' (String.ofList (cs.map fun c => if c = '\\' then '/' else c))

/-- The faults of source patterns. -/
def sourceFaults (patterns : List String) : List ConfigFault :=
  (if patterns.any (!startsWith "!" ·) then [] else [.nothingIncluded]) ++
    (patterns.filter fun p => (patternSegments p).contains "..").map .unsafePattern

/-- The faults of an external element. -/
def externalFaults (name : String) (e : ExternalElement) : List ConfigFault :=
  (if reservedNames.any (readsAs · name) then [.reservedName name] else []) ++
    (if elementTypes.contains e.type then [] else [.unknownType name e.type])

/-- The rules that a configuration breaks: those on groups, on source patterns, and on external
elements. -/
def faults (c : ContainerConfig) : List ConfigFault :=
  c.groups.faults.map .group ++ sourceFaults c.source ++
    c.external.toList.flatMap fun (name, e) => externalFaults name e

/-- Accept a configuration that breaks no rule. -/
def check (c : ContainerConfig) : Except ConfigError Unit :=
  match c.faults with
  | [] => .ok ()
  | faults => .error { problem := .rulesBroken, faults }

end ContainerConfig

/-- A set of containers that are analysed one by one. -/
structure WorkspaceConfig where
  name : String
  /-- The directory of the configuration. -/
  root : Path := {}
  description : String := ""
  /-- The configurations of the containers. -/
  containers : List Path := []
  deriving DecidableEq, Repr, Inhabited

end ArchModel
