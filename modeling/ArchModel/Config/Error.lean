import ArchModel.Files.Glob
import ArchModel.Group.Levels

/-!
# What can be wrong with a configuration

* `ConfigFault` is a rule that the values of a configuration break; all of them are collected.
* `ConfigError` is the error that ends the reading of a configuration, with the faults it lists and
  the file it is about. `ConfigError.text` is its wording.
* `LoadFailure` is any way in which loading ends without a configuration: such an error, a file
  that cannot be read, or a value with which nothing can be done.
-/

namespace ArchModel

open Text

/-- How the groups of components are read. -/
inductive GroupPolicy
  /-- As the way from an outermost group, with slashes between the names. -/
  | path
  /-- As the name of a group anywhere. -/
  | flat
  deriving DecidableEq, Repr, Inhabited

namespace GroupPolicy

/-- The word for a policy. -/
def word : GroupPolicy → String
  | path => "path"
  | flat => "flat"

/-- The policies. -/
def all : List GroupPolicy := [path, flat]

/-- The policy that a word names. -/
def ofWord? (s : String) : Option GroupPolicy := all.find? (·.word = s)

end GroupPolicy

/-- The kinds of elements that an architecture has. -/
def elementTypes : List String := ["component", "container", "softwareSystem", "person"]

/-- The names that no external element may have. -/
def reservedNames : List String := ["self", "this"]

/-- A rule that a configuration breaks. -/
inductive ConfigFault
  /-- A fault of the groups. -/
  | group (fault : GroupFault)
  /-- Every source pattern excludes. -/
  | nothingIncluded
  /-- A source pattern leads upwards. -/
  | unsafePattern (pattern : String)
  /-- An external element has a name that is reserved. -/
  | reservedName (name : String)
  /-- An external element is of no known type. -/
  | unknownType (name type : String)
  /-- A component is in a group that is not configured. -/
  | unknownGroup (component group : String)
  /-- A policy is not known. -/
  | policyChoice
  /-- Two containers of a workspace have one name. -/
  | repeatedContainer (name : String)
  deriving DecidableEq, Repr

namespace ConfigFault

/-- The wording of a fault. -/
def message : ConfigFault → String
  | group fault => fault.message
  | nothingIncluded => "Source patterns must include at least one positive pattern"
  | unsafePattern pattern =>
    "Pattern \"" ++ pattern ++ "\" contains potentially unsafe \"..\" path segment"
  | reservedName name => "External reference name \"" ++ name ++ "\" is reserved"
  | unknownType name type => "External element \"" ++ name ++ "\" has unknown type \"" ++ type ++
      "\" (expected one of: " ++ join ", " elementTypes ++ ")"
  | unknownGroup component name =>
    "Component \"" ++ component ++ "\" references unknown group \"" ++ name ++ "\""
  | policyChoice =>
    "groupPolicy must be one of: " ++ join ", " (GroupPolicy.all.map GroupPolicy.word)
  | repeatedContainer name => "Container name \"" ++ name ++ "\" is used more than once"

end ConfigFault

/-- Why there is no configuration. -/
inductive ConfigProblem
  /-- A directory, named by `dir`, holds no configuration. -/
  | noFileIn (file : String) (dir : String)
  /-- There is no file that `file` names. -/
  | notFound (file : String)
  | emptyFile
  /-- A file is no YAML; the message of its reader says why. -/
  | malformed (file message : String)
  | noMapping (file : String)
  | nameMissing
  | unknownPolicy (word : String)
  | targetMissing
  | noContainers
  | rulesBroken
  | unknownGroups
  | repeatedContainers
  deriving DecidableEq, Repr

namespace ConfigProblem

/-- The wording of a problem. -/
def message : ConfigProblem → String
  | noFileIn file dir => "No " ++ file ++ " found in " ++ dir
  | notFound file => "Configuration file not found: " ++ file
  | emptyFile => "Configuration file is empty"
  | malformed file message => "Failed to parse " ++ file ++ ": " ++ message
  | noMapping file => file ++ " must contain a mapping at the root"
  | nameMissing => "Container configuration requires a 'name'"
  | unknownPolicy word => "Unknown group policy '" ++ word ++ "'"
  | targetMissing => "Container relation requires a 'target'"
  | noContainers => "Workspace configuration lists no containers"
  | rulesBroken => "Business validation failed"
  | unknownGroups => "Components reference groups missing from the configuration"
  | repeatedContainers => "Workspace lists containers with duplicate names"

end ConfigProblem

/-- The error that ends the reading of a configuration. -/
structure ConfigError where
  /-- What is wrong. -/
  problem : ConfigProblem
  /-- The faults in detail. -/
  faults : List ConfigFault := []
  /-- The file in question. -/
  path : Option Path := none
  deriving DecidableEq, Repr

namespace ConfigError

/-- The wording of the faults. -/
def details (e : ConfigError) : List String := e.faults.map ConfigFault.message

/-- The wording of an error: the file in front, and a line for each fault. -/
def text (e : ConfigError) : String :=
  let message := match e.path with
    | some p => p.text ++ ": " ++ e.problem.message
    | none => e.problem.message
  message ++ String.join (e.details.map fun detail => "\n  - " ++ detail)

end ConfigError

/-- A way in which loading ends without a configuration. -/
inductive LoadFailure
  /-- The configuration is not acceptable. -/
  | config (error : ConfigError)
  /-- The file cannot be read as text. -/
  | read (error : FileError)
  /-- The reader of YAML fails otherwise than because of a text that is no YAML. -/
  | reader (kind : String)
  /-- A value cannot be written, or its groups cannot be gone through. -/
  | limit (l : Yaml.Limit)
  /-- The relations are a single value that has no members. -/
  | noMembers
  /-- A list of containers holds no glob. -/
  | glob (fault : GlobFault)
  deriving DecidableEq, Repr

end ArchModel
