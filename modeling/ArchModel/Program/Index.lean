import ArchModel.Model.Component
import ArchModel.Program.Module
import ArchModel.Source.Read

/-!
# Programs

A program is the modules of one scope. Files are added one after the other; a file that cannot be
read, is no source file or repeats the name of a module is passed over with a diagnostic. A file
that is never looked into stops the loading.

* `Program.add` adds a file, `Program.load` several.
* `Program.module?` finds a module by its name or by a short name, `moduleAt?` by its file,
  `class?` a class by its identity.
-/

namespace ArchModel

open Source

/-- The modules of one scope. -/
structure Program where
  /-- The directory that the names of modules start from. -/
  root : Option Path := none
  /-- The modules by name, in the order of loading. -/
  modules : Entries String SourceModule := ∅
  /-- The names of the modules by file. -/
  files : Entries String String := ∅
  /-- The short names of modules below source directories; nothing for a short name that several
  modules claim. -/
  aliases : Entries String (Option String) := ∅
  /-- The classes of all modules. -/
  classes : Entries ClassId ClassInfo := ∅
  /-- What was passed over. -/
  diagnostics : List Diagnostic := []
  /-- What stopped the loading. -/
  stopped : Option SourceFault := none
  deriving Inhabited

/-- Why a file is passed over. -/
inductive FileFault
  | unreadable (e : FileError)
  | noSource (f : SourceFault)
  | repeated (name : String) (first : Path)

namespace FileFault

/-- The wording of a fault. -/
def message : FileFault → String
  | unreadable e => "Cannot read source: " ++ e.message
  | noSource f => "Cannot parse source: " ++ f.message
  | repeated name first => "Module \"" ++ name ++ "\" is already defined by " ++ first.text

/-- The fault that stops the loading, if it is one. -/
def fatal? : FileFault → Option SourceFault
  | noSource f => if f.cause.isFatal then some f else none
  | _ => none

/-- The kind of a fault. -/
def kind : FileFault → String
  | unreadable e => e.kind
  | noSource f => f.kind
  | repeated .. => "DuplicateModuleError"

/-- The line that a fault names; zero if it names none. -/
def line : FileFault → Nat
  | noSource f => f.line
  | _ => 0

/-- The diagnostic for a file. -/
def diagnostic (path : Path) (f : FileFault) : Diagnostic where
  location := { file := path.text, declaration := "<module>", line := f.line }
  message := f.message
  error := f.kind

end FileFault

namespace Program

/-- The statements of a file. -/
def readFile (t : Tree) (path : Path) : Except FileFault (List Stmt) :=
  match t.readText path with
  | .error e => .error (.unreadable e)
  | .ok cs => (Stmt.ofText (String.ofList cs)).mapError .noSource

/-- The module that a file would be in a program. -/
def moduleFor (p : Program) (t : Tree) (path : Path) : Except FileFault SourceModule := do
  let body ← readFile t path
  let (name, isPackage) := moduleName t path p.root
  match p.modules.get? name with
  | some first => throw (.repeated name first.path)
  | none => return .ofBody name isPackage path body

/-- The short names with that of a module added. -/
def addAlias (p : Program) (t : Tree) (m : SourceModule) : Entries String (Option String) :=
  if p.root.isNone then p.aliases
  else
    let short := (moduleName t m.path none).1
    if short = m.name then p.aliases
    else p.aliases.insert short (if p.aliases.contains short then none else some m.name)

/-- The program with a module added. -/
def store (p : Program) (t : Tree) (m : SourceModule) : Program :=
  { p with
    modules := p.modules.insert m.name m
    files := p.files.insert m.path.text m.name
    aliases := p.addAlias t m
    classes := m.classes.values.foldl (fun classes c => classes.insert c.id c) p.classes }

/-- Add a file of a tree: the program and the module, if the file becomes one. -/
def add (p : Program) (t : Tree) (path : Path) : Program × Option SourceModule :=
  let path := path.resolve
  match p.moduleFor t path with
  | .ok m => (p.store t m, some m)
  | .error f =>
    match f.fatal? with
    | some fault => ({ p with stopped := p.stopped.or (some fault) }, none)
    | none => ({ p with diagnostics := p.diagnostics ++ [f.diagnostic path] }, none)

/-- The program of some files of a tree. -/
def load (t : Tree) (root : Option Path) (paths : List Path) : Program :=
  paths.foldl (fun p path => (p.add t path).1) { root := root.map Path.resolve }

/-- The module of a name or a short name. -/
def module? (p : Program) (name : String) : Option SourceModule :=
  match p.modules.get? name with
  | some m => some m
  | none => (p.aliases.get? name).join.bind p.modules.get?

/-- The module of a file. -/
def moduleAt? (p : Program) (file : Path) : Option SourceModule :=
  (p.files.get? file.resolve.text).bind p.modules.get?

/-- The class of an identity. -/
def class? (p : Program) (id : ClassId) : Option ClassInfo := p.classes.get? id

/-- The identity of the class of a qualified name in a file. -/
def idAt? (p : Program) (file : Path) (qualname : String) : Option ClassId :=
  ((p.moduleAt? file).bind (·.classes.get? qualname)).map (·.id)

end Program

end ArchModel
