import ArchModel.Config.Container

/-!
# What relations may lead to

Apart from the components of its own container, a relation may lead to an external element, to a
target configured for the container, or into another container of the workspace.

* `ReconcileContext.trusts` holds of the targets that are not looked for in the sources.
-/

namespace ArchModel

open Text

/-- The targets that are known without looking at the sources. -/
structure ReconcileContext where
  /-- The external elements. -/
  external : List String := []
  /-- The targets of the relations that are configured. -/
  targets : List String := []
  /-- The other containers of the workspace. -/
  scopes : List String := []
  deriving DecidableEq, Repr, Inhabited

namespace ReconcileContext

/-- The context of a container among the containers of a workspace. -/
def ofConfig (c : ContainerConfig) (containers : List String) : ReconcileContext where
  external := c.external.keys
  targets := c.relationTargets
  scopes := containers.filter (· ≠ c.name)

/-- Whether a target is an external element or configured. -/
def declares (x : ReconcileContext) (target : String) : Bool :=
  x.external.contains target || x.targets.contains target

/-- Whether a target is not looked for in the sources. The part in front of the first dot may name
what holds the target. -/
def trusts (x : ReconcileContext) (target : String) : Bool :=
  let holder := (cut '.' target).1
  x.declares target || x.scopes.contains holder ||
    (containsChar '.' target && x.declares holder)

end ReconcileContext

end ArchModel
