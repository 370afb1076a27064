import ArchModel.Program.Index

/-!
# Following names to classes

A dotted name in a module stands for a class of that module, or its first part is an imported name,
which is replaced by what it stands for; the longest part of the result that names a module says
where to go on. A name that is neither is looked for in the modules whose names are all imported.

* `Program.resolveIn` follows a name, `Program.resolve?` a fully qualified one. At most eight
  imports are followed, so both come to an end also where imports lead in a circle.
-/

namespace ArchModel

open Text

namespace Program

/-- The number of imports that are followed. -/
def importLimit : Nat := 8

/-- The module of the longest proper part at the front of a dotted name, `count` names of which are
tried first, with the names behind it. -/
def ownerFrom? (p : Program) (names : List String) : Nat → Option (SourceModule × List String)
  | 0 => none
  | count + 1 =>
    match p.module? (join "." (names.take (count + 1))) with
    | some m => some (m, names.drop (count + 1))
    | none => p.ownerFrom? names count

/-- The module of the longest proper part at the front of a dotted name, with the names behind
it. -/
def owner? (p : Program) (names : List String) : Option (SourceModule × List String) :=
  p.ownerFrom? names (names.length - 1)

/-- The class that a dotted name stands for in a module, if at most `limit` imports are
followed. -/
def resolveIn (p : Program) : Nat → SourceModule → List String → Option ClassId
  | limit, m, names =>
    match m.classes.get? (join "." names) with
    | some c => some c.id
    | none =>
      match limit, names.head?.bind m.imports.get? with
      | 0, _ => none
      | limit + 1, some target =>
        match p.owner? (split '.' target ++ names.tail) with
        | some (next, rest) => p.resolveIn limit next rest
        | none => none
      | limit + 1, none => m.starImports.findSome? fun star =>
        match p.module? star with
        | some next => if next.name = m.name then none else p.resolveIn limit next names
        | none => none

/-- The class that a fully qualified name stands for. -/
def resolve? (p : Program) (dotted : String) : Option ClassId :=
  match p.owner? (split '.' dotted) with
  | some (m, names) => p.resolveIn importLimit m names
  | none => none

/-- The class that a dotted name stands for in a module. -/
def resolveName? (p : Program) (m : SourceModule) (dotted : String) : Option ClassId :=
  p.resolveIn importLimit m (split '.' dotted)

end Program

end ArchModel
