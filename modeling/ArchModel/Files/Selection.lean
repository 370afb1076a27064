import ArchModel.Files.Pattern
import ArchModel.Files.Tree

/-!
# The source files of a directory

A list of patterns selects the source files below a directory: those that some pattern includes
and no pattern with an exclamation mark in front excludes.

* `SourcePatterns.ofTexts` reads the list.
* `sourceNames` lists the source files below a directory: in each directory the files in the order
  of their names, then those of the subdirectories in the order of theirs. Directories of tools
  are passed over.
* `selectSources` is the selection.
-/

namespace ArchModel

open Text

/-- The directories that hold no sources of the project. -/
def ignoredDirs : List String :=
  [".git", ".hg", ".svn", ".venv", "venv", "node_modules", "__pycache__", ".pytest_cache",
    ".mypy_cache", ".tox", ".idea"]

/-- Patterns that include and patterns that exclude. -/
structure SourcePatterns where
  /-- A file is selected only if one of these matches. -/
  includes : List Pattern := []
  /-- A file is selected only if none of these matches. -/
  excludes : List Pattern := []
  deriving DecidableEq, Repr

/-- A source pattern as it is written: what it matches, and whether it excludes. -/
structure WrittenPattern where
  /-- Whether an exclamation mark stands in front. -/
  negated : Bool
  /-- The pattern itself, with slashes between its segments and no `./` in front. -/
  body : String
  deriving DecidableEq, Repr

namespace WrittenPattern

/-- Read a pattern; white space around it does not count and backslashes are slashes. -/
def ofText (s : String) : WrittenPattern :=
  let cs := (strip s).toList.map fun c => if c = '\\' then '/' else c
  let (negated, cs) := match cs with
    | '!' :: cs => (true, cs)
    | cs => (false, cs)
  let cs := match cs with
    | '.' :: '/' :: cs => cs
    | cs => cs
  ⟨negated, String.ofList cs⟩

end WrittenPattern

namespace SourcePatterns

/-- The patterns of a list; those without a body count as nothing. -/
def ofTexts (patterns : List String) : SourcePatterns :=
  let written := (patterns.map WrittenPattern.ofText).filter (·.body ≠ "")
  { includes := (written.filter (!·.negated)).map (Pattern.ofText ·.body)
    excludes := (written.filter (·.negated)).map (Pattern.ofText ·.body) }

/-- Whether a relative path is selected. -/
def selects (p : SourcePatterns) (path : String) : Bool :=
  p.includes.any (·.accepts path) && !p.excludes.any (·.accepts path)

end SourcePatterns

/-- The members of a list of named things in the order of their names. -/
def sortByName {α : Type} (l : List (String × α)) : List (String × α) :=
  l.mergeSort fun a b => Text.inOrder a.1 b.1

/-- Whether an entry is a source file. -/
def isSource : String × Tree → Bool
  | (name, .file _) => endsWith ".py" name
  | _ => false

mutual

/-- The source files below a directory, each as the names from there to the file. -/
def sourceNames : Tree → List (List String)
  | .file _ => []
  | .dir entries =>
    ((sortByName (entries.filter isSource)).map fun (name, _) => [name]) ++
      (sortByName (sourceNamesIn entries)).flatMap fun (name, below) => below.map (name :: ·)

/-- The source files below each of the directories among entries, the ignored ones left out. -/
def sourceNamesIn : List (String × Tree) → List (String × List (List String))
  | [] => []
  | (name, t) :: es =>
    if t.isDir && !ignoredDirs.contains name then (name, sourceNames t) :: sourceNamesIn es
    else sourceNamesIn es

end

/-- The source files below a directory of a tree that patterns select, in order. -/
def selectSources (t : Tree) (root : Path) (patterns : List String) : List Path :=
  let p := SourcePatterns.ofTexts patterns
  let names := match t.find? root with
    | some d => sourceNames d
    | none => []
  (names.filter fun rel => p.selects (join "/" rel)).map fun rel => ⟨root.parts ++ rel⟩

end ArchModel
