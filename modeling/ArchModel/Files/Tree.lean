import ArchModel.Text.Quoted
import ArchModel.Text.Lines
import ArchModel.Text.Utf8

/-!
# Paths and file trees

A file tree is a value: directories with named entries, and files with their bytes. There are no
links in it, so a path has one meaning.

* `Path` is an absolute path, the list of the names on the way from the top. `Path.join` reads a
  text against it, `Path.resolve` works the names `..` out.
* `WrittenPath` is a path together with the text that names it.
* `Tree.find?` looks a path up, `Tree.write` puts a file there.
* `Tree.readText` is the text of a file, `Tree.save` puts a file where one can stand; `FileError`
  says why they fail.
-/

namespace ArchModel

open Text

/-- An absolute path: the names on the way from the top, among which `..` leads back up. -/
structure Path where
  /-- The names, outermost first. -/
  parts : List String := []
  deriving DecidableEq, Repr, Inhabited

namespace Path

/-- The path as it is written. -/
def text (p : Path) : String := "/" ++ Text.join "/" p.parts

/-- The last name; empty for the top. -/
def name (p : Path) : String := p.parts.getLast?.getD ""

/-- The directory that holds the path; the top holds itself. -/
def parent (p : Path) : Path := ⟨p.parts.dropLast⟩

/-- The path of an entry. -/
def child (p : Path) (name : String) : Path := ⟨p.parts ++ [name]⟩

/-- The name without its last extension. A dot in front or at the end starts no extension. -/
def stem (p : Path) : String :=
  let cs := p.name.toList
  match cutChars '.' cs.reverse with
  | some (ext, base) =>
    if ext.isEmpty || base.isEmpty then p.name else String.ofList base.reverse
  | none => p.name

/-- The names of a path below another one. -/
def below? (p dir : Path) : Option (List String) :=
  if dir.parts.isPrefixOf p.parts then some (p.parts.drop dir.parts.length) else none

/-- The path that a text names, starting from a directory unless it starts at the top. Names `.`
say nothing and are left out; `..` is kept. -/
def join (dir : Path) (s : String) : Path :=
  let names := (split '/' s).filter fun part => part ≠ "" ∧ part ≠ "."
  if startsWith "/" s then ⟨names⟩ else ⟨dir.parts ++ names⟩

/-- The path with each `..` and the name before it worked out; at the top `..` says nothing. -/
def resolve (p : Path) : Path :=
  ⟨p.parts.foldl (fun names part => if part = ".." then names.dropLast else names ++ [part]) []⟩

end Path

/-- A path as it was named. -/
structure WrittenPath where
  /-- Where it leads. -/
  path : Path
  /-- The text that names it. -/
  text : String
  deriving DecidableEq, Repr, Inhabited

namespace WrittenPath

/-- A path that is named in full. -/
def ofPath (p : Path) : WrittenPath := ⟨p, p.text⟩

/-- The plain form of a text that names a path: single slashes between the names, of which `.` is
left out. Two slashes at the start, but not more of them, stay two. -/
def plainForm (s : String) : String :=
  let names := Text.join "/" (Path.join {} s).parts
  if startsWith "//" s && !startsWith "///" s then "//" ++ names
  else if startsWith "/" s then "/" ++ names
  else if names = "" then "." else names

/-- The path that a text names, starting from a directory. -/
def ofText (dir : Path) (s : String) : WrittenPath := ⟨dir.join s, plainForm s⟩

end WrittenPath

/-- A file tree. -/
inductive Tree
  /-- A file with its bytes. -/
  | file (bytes : List UInt8)
  /-- A directory with its entries by name. -/
  | dir (entries : List (String × Tree))
  deriving Inhabited

/-- Why a file cannot be read as text or saved. -/
inductive FileError
  | absent (path : Path)
  | isDirectory (path : Path)
  | notDirectory (path : Path)
  | undecodable (fault : Utf8Fault)
  deriving DecidableEq, Repr

namespace FileError

/-- The wording of an error. -/
def message : FileError → String
  | absent p => "[Errno 2] No such file or directory: " ++ quoted p.text
  | isDirectory p => "[Errno 21] Is a directory: " ++ quoted p.text
  | notDirectory p => "[Errno 20] Not a directory: " ++ quoted p.text
  | undecodable f => f.message

/-- The kind of an error. -/
def kind : FileError → String
  | absent _ => "FileNotFoundError"
  | isDirectory _ => "IsADirectoryError"
  | notDirectory _ => "NotADirectoryError"
  | undecodable _ => "UnicodeDecodeError"

end FileError

namespace Tree

/-- A directory without entries. -/
def empty : Tree := dir []

/-- The entries of a directory; a file has none. -/
def entries : Tree → List (String × Tree)
  | file _ => []
  | dir es => es

/-- Whether the tree is a directory. -/
def isDir : Tree → Bool
  | file _ => false
  | dir _ => true

/-- The entry of a name. -/
def entry? (t : Tree) (name : String) : Option Tree :=
  (t.entries.find? (·.1 == name)).map (·.2)

/-- What stands at the end of a way of names, `above` being the directories passed, nearest
first. -/
def follow (above : List Tree) (t : Tree) : List String → Option Tree
  | [] => some t
  | name :: names =>
    if name = ".." then
      match t, above with
      | file _, _ => none
      | dir _, [] => t.follow [] names
      | dir _, up :: above => up.follow above names
    else (t.entry? name).bind (·.follow (t :: above) names)

/-- What stands at a path. -/
def find? (t : Tree) (p : Path) : Option Tree := t.follow [] p.parts

/-- Whether something stands at a path. -/
def holds (t : Tree) (p : Path) : Bool := (t.find? p).isSome

/-- Whether a directory stands at a path. -/
def holdsDir (t : Tree) (p : Path) : Bool :=
  match t.find? p with
  | some (dir _) => true
  | _ => false

/-- The entries with one set, at its place or at the end. -/
def setEntry (name : String) (new : Tree) : List (String × Tree) → List (String × Tree)
  | [] => [(name, new)]
  | (n, t) :: es => if n = name then (n, new) :: es else (n, t) :: setEntry name new es

/-- The tree with a node set at the end of a way of names; the directories on the way are made. -/
def set (new : Tree) : List String → Tree → Tree
  | [], _ => new
  | name :: names, t =>
    dir (setEntry name (set new names ((t.entry? name).getD empty)) t.entries)

/-- The tree with a file at a path. -/
def write (t : Tree) (p : Path) (bytes : List UInt8) : Tree := set (file bytes) p.parts t

/-- The tree with a directory at a path, which is left alone if it exists. -/
def makeDir (t : Tree) (p : Path) : Tree := if t.holdsDir p then t else set empty p.parts t

/-- Whether a way of names leads through a file. -/
def crossesFile (t : Tree) (names : List String) : Bool :=
  (List.range names.length).any fun n =>
    match t.follow [] (names.take n) with
    | some (file _) => true
    | _ => false

/-- The bytes of the file at a path. -/
def readBytes (t : Tree) (p : Path) : Except FileError (List UInt8) :=
  match t.find? p with
  | some (file bytes) => .ok bytes
  | some (dir _) => .error (.isDirectory p)
  | none => if t.crossesFile p.parts then .error (.notDirectory p) else .error (.absent p)

/-- The tree with a file saved at a path, which replaces a file that stands there. Its directory
must exist. -/
def save (t : Tree) (p : Path) (bytes : List UInt8) : Except FileError Tree :=
  match t.find? p with
  | some (file _) => .ok (t.write p.resolve bytes)
  | some (dir _) => .error (.isDirectory p)
  | none =>
    if t.holdsDir p.parent then .ok (t.write p.resolve bytes)
    else if t.crossesFile p.parts then .error (.notDirectory p)
    else .error (.absent p)

/-- The text of the file at a path, with its line breaks unified. -/
def readText (t : Tree) (p : Path) : Except FileError (List Char) := do
  let bytes ← t.readBytes p
  match decodeUtf8 (bytes.map UInt8.toNat) with
  | .ok cs => return unifyLineBreaks cs
  | .error fault => throw (.undecodable fault)

end Tree

end ArchModel
