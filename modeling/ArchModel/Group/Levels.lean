import ArchModel.Yaml.Value

/-!
# Configured groups

Groups are names nested in each other. A configuration may refer to a level of groups from several
places, and by mistake from within itself, so levels are numbered and names lead to numbers. A
number beyond the levels stands for no subgroups.

* `Groups.walk` lists every chain of names from the top, each level before the levels below it; a
  level within itself is not entered again.
* `Groups.names` and `Groups.paths` are the names and the chains joined by slashes.
* `Groups.faults` is what makes a configuration of groups unusable, and `Groups.checkLimit?` is what
  keeps the groups in a document from being checked for it.
-/

namespace ArchModel

open Text

/-- Nested groups: for each level its names, and the levels they lead to. -/
structure Groups where
  /-- The levels by number. -/
  levels : Array (List (String × Nat)) := #[]
  /-- The outermost level. -/
  root : Nat := 0
  deriving DecidableEq, Repr, Inhabited

/-- What is wrong with a configuration of groups. -/
inductive GroupFault
  /-- A level holds itself; the chain of names leads to it. -/
  | selfContained (path : List String)
  /-- A name occurs twice in the chain. -/
  | repeatedName (path : List String)
  /-- A name has characters that are not allowed. -/
  | badName (name : String)
  deriving DecidableEq, Repr

namespace GroupFault

/-- The wording of a fault. -/
def message : GroupFault → String
  | selfContained path => "Cyclic group definition detected at: " ++ join " -> " path
  | repeatedName path => "Cyclic dependency detected in groups: " ++ join " -> " path
  | badName name => "Invalid group name \"" ++ name ++
      "\": only letters, numbers, spaces and hyphens are allowed"

end GroupFault

/-- Letters, digits, blanks and hyphens of ASCII. -/
def isGroupChar (c : Char) : Bool := c.isAlphanum || c == ' ' || c == '-'

/-- Whether a name may be the name of a group. A line feed at its end is passed over. -/
def isGroupName (name : String) : Bool :=
  let cs := name.toList
  let body := if cs.getLast? = some '\n' then cs.dropLast else cs
  !body.isEmpty && body.all isGroupChar

namespace Groups

/-- The names of a level and the levels they lead to. -/
def entries (g : Groups) (level : Nat) : List (String × Nat) := g.levels[level]?.getD []

/-- Whether no group is configured. -/
def isEmpty (g : Groups) : Bool := (g.entries g.root).isEmpty

/-- The chains of names below a level that `path` leads to through the levels `around`, each with
the level it leads to. No chain of distinct levels is longer than there are levels. -/
def walkFrom (g : Groups) (path : List String) (around : List Nat) (level : Nat) :
    Nat → List (List String × Nat)
  | 0 => []
  | fuel + 1 =>
    if around.contains level then []
    else
      let here := (g.entries level).map fun (name, below) => (path ++ [name], below)
      here ++ here.flatMap fun (path, below) => walkFrom g path (level :: around) below fuel

/-- Every chain of names from the top, with the level it leads to. -/
def walk (g : Groups) : List (List String × Nat) := g.walkFrom [] [] g.root (g.levels.size + 2)

/-- The names of all groups, in the order of the chains that end in them. -/
def names (g : Groups) : List String := g.walk.filterMap (·.1.getLast?)

/-- The chains of names joined by slashes. -/
def paths (g : Groups) : List String := g.walk.map fun (path, _) => join "/" path

/-- The faults at and below a level that `path` leads to through the levels `around`. -/
def faultsFrom (g : Groups) (path : List String) (around : List Nat) (level : Nat) :
    Nat → List GroupFault
  | 0 => []
  | fuel + 1 =>
    if around.contains level then [.selfContained path]
    else (g.entries level).flatMap fun (name, below) =>
      if path.contains name then [.repeatedName (path ++ [name])]
      else
        (if isGroupName name then [] else [.badName name]) ++
          if below < g.levels.size then
            faultsFrom g (path ++ [name]) (level :: around) below fuel
          else []

/-- The faults of a configuration of groups. -/
def faults (g : Groups) : List GroupFault := g.faultsFrom [] [] g.root (g.levels.size + 2)

/-- The groups that a value of a document describes: names as the keys read, and mappings below
them; whatever is no mapping stands for no subgroups. -/
def ofDocument (d : Yaml.Document) (v : Yaml.Value) : Groups :=
  let none := d.collections.size
  let level := fun v : Yaml.Value =>
    match v with
    | .map id => id
    | _ => none
  { levels := d.collections.map fun c =>
      match c with
      | .map pairs => pairs.map fun (k, v) => (d.text k, level v)
      | .list _ => []
    root := level v }

/-- What keeps the groups of a mapping, to which `path` leads through the mappings `around`, from
being checked for faults, where a number of calls fits on the stack: a call is needed for each
mapping, and those that write its names. -/
def checkLimit? (d : Yaml.Document) (path : List String) (around : List Nat) :
    Nat → Nat → Option Yaml.Limit
  | 0, _ => some .calls
  | calls + 1, id =>
    if around.contains id then none
    else (d.pairs id).findSome? fun (k, v) =>
      match d.text? calls k, v with
      | .error l, _ => some l
      | .ok name, .map below =>
        if path.contains name then none
        else checkLimit? d (path ++ [name]) (id :: around) calls below
      | .ok _, _ => none

end Groups

end ArchModel
