import ArchModel.Config.Container
import ArchModel.Config.Host
import ArchModel.Group.Normal

/-!
# Loading configurations

A configuration is a YAML file whose root is a mapping. Its values are read leniently: a value of
another type than expected counts as absent, and numbers and truth values read as texts. What writes
a value or goes through the groups is given the number of calls that fit on the stack.

* `locate` finds the file for a path that may also be a directory.
* `readMapping` reads the file.
* `loadContainer` and `loadWorkspace` read the two kinds of configuration.
-/

namespace ArchModel

open Text Yaml

/-- The files that may configure a container. -/
def containerFiles : List String := ["c4container.yml", "c4container.yaml", "c4container.json"]

/-- The files that may configure a workspace. -/
def workspaceFiles : List String := ["c4workspace.yml", "c4workspace.yaml", "c4workspace.json"]

/-- The configuration file for a path: the file itself, or the first of the names that a directory
holds. -/
def locate (t : Tree) (p : WrittenPath) (names : List String) : Except ConfigError Path :=
  if t.holdsDir p.path then
    match names.find? fun name => t.holds (p.path.child name) with
    | some name => .ok (p.path.child name).resolve
    | none => .error { problem := .noFileIn (names.headD "") p.text }
  else if t.holds p.path then .ok p.path.resolve
  else .error { problem := .notFound p.text }

/-- The document in a configuration file, with the number of the mapping at its root. -/
def readMapping (host : Host) (t : Tree) (file : Path) : Except LoadFailure (Document × Nat) := do
  let cs ← (t.readText file).mapError .read
  let fail := fun problem : ConfigProblem => LoadFailure.config { problem, path := some file }
  if cs.all isBlank then throw (fail .emptyFile)
  match host.yaml cs with
  | .error (.malformed message) => throw (fail (.malformed file.name message))
  | .error (.other kind) => throw (.reader kind)
  | .ok d =>
    match d.root with
    | .map id => return (d, id)
    | _ => throw (fail (.noMapping file.name))

namespace Yaml.Document

/-- The value of a key that is a text in a mapping; null if it is absent. -/
def field (d : Document) (id : Nat) (key : String) : Value :=
  (Document.lookup (.text key) (d.pairs id)).getD .null

/-- The pairs of a value that is a mapping; none for any other value. -/
def pairsOf (d : Document) (v : Value) : List (Value × Value) :=
  match v with
  | .map id => d.pairs id
  | _ => []

/-- The value of a key in a value that is a mapping; null for any other value. -/
def fieldOf (d : Document) (v : Value) (key : String) : Value :=
  (Document.lookup (.text key) (d.pairsOf v)).getD .null

/-- The text of a value that is a text, a number or a truth value. -/
def plain (d : Document) (calls : Nat) (v : Value) : Except LoadFailure (Option String) :=
  match v.plainText? with
  | some _ => ((d.text? calls v).map some).mapError .limit
  | none => .ok none

/-- The text of a value, whatever it is. -/
def written (d : Document) (calls : Nat) (v : Value) : Except LoadFailure String :=
  (d.text? calls v).mapError .limit

/-- The texts in a value: a text alone, the texts, numbers and truth values of a list, or the
numbers of bytes. -/
def textsOf (d : Document) (calls : Nat) (v : Value) : Except LoadFailure (List String) :=
  match v with
  | .text s => .ok [s]
  | .bytes b => .ok (b.map toString)
  | .list id => (d.items id).filterMapM (d.plain calls)
  | _ => .ok []

/-- The first of two values that counts as given, else the second. -/
def firstGiven (d : Document) (a b : Value) : Value := if d.isGiven a then a else b

/-- The members of a value: those of a list, the keys of a mapping, the characters of a text. -/
def membersOf? (d : Document) (v : Value) : Option (List Value) :=
  match v with
  | .list id | .keySet id => some (d.items id)
  | .map id => some ((d.pairs id).map (·.1))
  | .text s => some (s.toList.map fun c => .text (String.singleton c))
  | .bytes b => some (b.map fun n : Nat => .int n)
  | _ => none

end Yaml.Document

/-- A text that is not empty. -/
def nonempty (s : Option String) : Option String := s.filter (· ≠ "")

/-- An external element in a mapping of them. -/
def readExternalElement (d : Document) (calls : Nat) (key e : Value) :
    Except LoadFailure (String × ExternalElement) := do
  let name ← d.written calls key
  return (name,
    { name
      type := (nonempty (← d.plain calls (d.fieldOf e "type"))).getD "softwareSystem"
      description := (← d.plain calls (d.fieldOf e "description")).getD ""
      technology := ← d.plain calls (d.fieldOf e "technology")
      tags := ← d.textsOf calls (d.fieldOf e "tags") })

/-- The external elements in a value. -/
def readExternal (d : Document) (calls : Nat) (v : Value) :
    Except LoadFailure (Entries String ExternalElement) := do
  return .ofList (← (d.pairsOf v).mapM fun (key, e) => readExternalElement d calls key e)

/-- The relation that a member describes; it must have a target. -/
def readRelation (d : Document) (calls : Nat) (file : Path) (item : Value) :
    Except LoadFailure ContainerRelation := do
  match nonempty (← d.plain calls (d.fieldOf item "target")) with
  | none => throw (.config { problem := .targetMissing, path := some file })
  | some target => return {
      target
      description := (← d.plain calls (d.fieldOf item "description")).getD ""
      technology := ← d.plain calls (d.fieldOf item "technology")
      tags := ← d.textsOf calls (d.fieldOf item "tags") }

/-- The relations in a value that counts as given. -/
def readRelations (d : Document) (calls : Nat) (file : Path) (v : Value) :
    Except LoadFailure (List ContainerRelation) :=
  if d.isGiven v then
    match d.membersOf? v with
    | none => .error .noMembers
    | some members => members.mapM (readRelation d calls file)
  else .ok []

/-- The groups in a value turned into mappings, and the state reached. Null stands for no groups. -/
def enterGroups (d : Document) (calls : Nat) (v : Value) : Value × GroupNormalizer :=
  match v with
  | .null => GroupNormalizer.fresh { document := d } []
  | v => GroupNormalizer.run calls d v

/-- The groups in a value, and the document with them in normal form. -/
def readGroups (d : Document) (calls : Nat) (v : Value) : Except LoadFailure (Value × Document) :=
  let (groups, r) := enterGroups d calls v
  match r.limit with
  | some l => .error (.limit l)
  | none => .ok (groups, r.document)

/-- The container that the mapping of a document configures, and the document with its groups in
normal form. They are brought into it before the last values are read, which shows where a value is
shared between them. -/
def readContainer (d : Document) (calls : Nat) (id : Nat) (file : Path) :
    Except LoadFailure (ContainerConfig × Document) := do
  let fail := fun problem faults =>
    LoadFailure.config { problem, faults, path := some file }
  let some name := nonempty (← d.plain calls (d.field id "name")) | throw (fail .nameMissing [])
  let source ← d.textsOf calls (d.field id "source")
  let policyWord := (nonempty (← d.plain calls
    (d.firstGiven (d.field id "groupPolicy") (d.field id "group_policy")))).getD
      GroupPolicy.path.word
  let some policy := GroupPolicy.ofWord? policyWord
    | throw (fail (.unknownPolicy policyWord) [.policyChoice])
  let external ← readExternal d calls (d.field id "external")
  let relations ← readRelations d calls file
    (d.firstGiven (d.field id "relations") (d.field id "relationships"))
  let (groups, d) ← readGroups d calls (d.field id "groups")
  let c : ContainerConfig := {
    name
    root := file.parent
    description := (← d.plain calls (d.field id "description")).getD ""
    technology := ← d.plain calls (d.field id "technology")
    tags := ← d.textsOf calls (d.field id "tags")
    properties := .ofList (← (d.pairsOf (d.field id "properties")).mapM fun (k, v) => do
      return (← d.written calls k, ← d.written calls v))
    source := if source.isEmpty then defaultSource else source
    groups := .ofDocument d groups
    policy
    external
    relations }
  return (c, d)

/-- Check a configuration whose groups are read from a document. -/
def ContainerConfig.validate (c : ContainerConfig) (d : Document) (calls : Nat) (file : Path) :
    Except LoadFailure Unit :=
  match Groups.checkLimit? d [] [] calls c.groups.root with
  | some l => .error (.limit l)
  | none => c.check.mapError fun e => .config { e with path := some file }

/-- The configuration of a container, checked if `validate` holds. -/
def loadContainer (host : Host) (t : Tree) (p : WrittenPath) (validate : Bool := true) :
    Except LoadFailure ContainerConfig := do
  let file ← (locate t p containerFiles).mapError .config
  let (d, id) ← readMapping host t file
  let (c, d) ← readContainer d host.stack id file
  if validate then c.validate d host.stack file
  return c

/-- The configuration of a workspace. Its containers are paths, or globs that stand for all paths
they lead to. -/
def loadWorkspace (host : Host) (t : Tree) (p : WrittenPath) :
    Except LoadFailure WorkspaceConfig := do
  let file ← (locate t p workspaceFiles).mapError .config
  let (d, id) ← readMapping host t file
  let root := file.parent
  let calls := host.stack
  let containers ← (← d.textsOf calls (d.field id "containers")).mapM fun entry =>
    if Glob.isOpen entry then (Glob.expand t root entry).mapError LoadFailure.glob
    else .ok [(root.join entry).resolve]
  let containers := containers.flatten
  if containers.isEmpty then
    throw (.config { problem := .noContainers, path := some file })
  return {
    name := (nonempty (← d.plain calls (d.field id "name"))).getD root.name
    root
    description := (← d.plain calls (d.field id "description")).getD ""
    containers }

end ArchModel
