import ArchModel.Entries
import ArchModel.Files.Tree
import ArchModel.Program.ClassId
import ArchModel.Source.Tree

/-!
# Modules

A module is one source file under a dotted name, with the names that it imports and the classes
that it declares.

* `moduleName` is the name of a file: the directories that lead to it from the outermost package,
  and those between the root and that package, if there is a root.
* `importBase?` is the module that an import refers to.
* `importTables` collects the imported names, `declaredClasses` the classes.
-/

namespace ArchModel

open Text Source

/-- A class of a program. -/
structure ClassInfo where
  id : ClassId
  /-- The file. -/
  path : Path
  /-- The declaration. -/
  decl : ClassDef
  /-- The functions in the body by name; of two of one name the first. -/
  methods : Entries String Function
  deriving Inhabited

/-- The method that makes the objects of a class. -/
def constructorName : String := "__init__"

/-- The methods of a class, the constructor first. -/
def ClassInfo.constructorFirst (c : ClassInfo) : List (String × Function) :=
  let isConstructor := fun (m : String × Function) => m.1 == constructorName
  c.methods.toList.filter isConstructor ++ c.methods.toList.filter (!isConstructor ·)

/-- A source file under its dotted name. -/
structure SourceModule where
  name : String
  path : Path
  /-- Whether the file stands for its directory. -/
  isPackage : Bool
  /-- The dotted names that local names stand for. -/
  imports : Entries String String
  /-- The modules whose names are all imported. -/
  starImports : List String
  /-- The classes by qualified name. -/
  classes : Entries String ClassInfo
  deriving Inhabited

/-! ## Names of modules -/

/-- The file that makes a directory a package. -/
def packageFile : String := "__init__.py"

/-- The number of packages around a file, of which the names of the directories are given, innermost
first. -/
def packageDepth (t : Tree) : List String → Nat
  | [] => 0
  | name :: outer =>
    if t.holds ⟨(packageFile :: name :: outer).reverse⟩ then packageDepth t outer + 1 else 0

/-- The dotted name of a file, and whether the file stands for its directory. The directories
between the root and the outermost package count as part of the name. -/
def moduleName (t : Tree) (path : Path) (root : Option Path) : String × Bool :=
  let path := path.resolve
  let isPackage := path.stem == "__init__"
  let dirs := path.parent.parts
  let depth := packageDepth t dirs.reverse
  let outer : Path := ⟨dirs.take (dirs.length - depth)⟩
  let above := (root.bind fun r => outer.below? r.resolve).getD []
  let own := if isPackage then [] else [path.stem]
  let name := join "." (above ++ dirs.drop (dirs.length - depth) ++ own)
  (if name = "" then path.parent.name else name, isPackage)

/-! ## Imports -/

/-- The names of a package that are left after going up some levels. Levels that lead out of the top
count anew from the package itself. -/
def packageAbove (package : List String) (levels : Nat) : List String :=
  let up := if levels ≤ package.length then levels else levels - package.length
  package.take (package.length - up)

/-- The dotted name of the module that an import of members refers to; `level` is the number of
leading dots. -/
def importBase? (name : String) (isPackage : Bool) (module : Option String) (level : Nat) :
    Option String :=
  if level = 0 then module
  else
    let names := split '.' name
    let package := packageAbove (if isPackage then names else names.dropLast) (level - 1)
    if package.isEmpty && module.isNone then none
    else some (join "." (package ++ module.toList))

/-- The names that a file imports. -/
structure ImportTables where
  /-- The dotted names that local names stand for. -/
  names : Entries String String := ∅
  /-- The modules whose names are all imported. -/
  stars : List String := []

namespace ImportTables

/-- Add an imported module. Without a new name the first part of its name stands for itself, unless
that name is taken. -/
def addModule (t : ImportTables) (i : ImportName) : ImportTables :=
  match i.as with
  | some new => { t with names := t.names.insert new i.name }
  | none =>
    let head := (cut '.' i.name).1
    { t with names := t.names.insertIfNew head head }

/-- Add a name imported from a module. -/
def addMember (base : String) (t : ImportTables) (i : ImportName) : ImportTables :=
  if i.name = "*" then { t with stars := t.stars ++ [base] }
  else { t with names := t.names.insert (i.as.getD i.name) (base ++ "." ++ i.name) }

/-- Add an import of a module that has a name itself. -/
def add (name : String) (isPackage : Bool) (t : ImportTables) : Import → ImportTables
  | .modules names => names.foldl addModule t
  | .members module names level =>
    match importBase? name isPackage module level with
    | some base => names.foldl (addMember base) t
    | none => t

end ImportTables

/-- The names imported by the statements of a module. -/
def importTables (name : String) (isPackage : Bool) (body : List Stmt) : ImportTables :=
  (importsOf body).foldl (ImportTables.add name isPackage) {}

/-! ## Classes -/

/-- The functions in the body of a class by name; of two of one name the first. -/
def methodsOf (body : List Stmt) : Entries String Function :=
  body.foldl (fun methods s => match s with
    | .function f => methods.insertIfNew f.name f
    | _ => methods) ∅

mutual

/-- The classes that a statement declares, with the chains of names that lead to them. At the top
level the branches of a condition and a body that is tried count as well. -/
def declaredBy (above : List String) : Stmt → List (List String × ClassDef)
  | .classDef c => declaredByClass above c
  | .conditional _ body orelse =>
    if above.isEmpty then declaredIn [] body ++ declaredIn [] orelse else []
  | .attempt body _ => if above.isEmpty then declaredIn [] body else []
  | _ => []

/-- A class and the classes declared in its body. -/
def declaredByClass (above : List String) : ClassDef → List (List String × ClassDef)
  | ⟨name, line, bases, body⟩ =>
    (above ++ [name], ⟨name, line, bases, body⟩) :: declaredIn (above ++ [name]) body

/-- The classes that statements declare. -/
def declaredIn (above : List String) : List Stmt → List (List String × ClassDef)
  | [] => []
  | s :: ss => declaredBy above s ++ declaredIn above ss

end

/-- The classes of a module by qualified name. A class declared again replaces the first one at its
place. -/
def declaredClasses (name : String) (path : Path) (body : List Stmt) : Entries String ClassInfo :=
  .ofList ((declaredIn [] body).map fun (chain, c) =>
    let qualname := join "." chain
    (qualname, ⟨⟨name, qualname⟩, path, c, methodsOf c.body⟩))

/-- The module of a name that a file holds. -/
def SourceModule.ofBody (name : String) (isPackage : Bool) (path : Path) (body : List Stmt) :
    SourceModule :=
  let tables := importTables name isPackage body
  { name, path, isPackage, imports := tables.names, starImports := tables.stars
    classes := declaredClasses name path body }

end ArchModel
