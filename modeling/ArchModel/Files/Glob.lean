import ArchModel.Files.Selection
import ArchModel.Entries

/-!
# Expanding wildcards against a file tree

A glob is a way through a file tree of which some names are left open: `*` stands for any run of
characters of a name, `?` for one, brackets for one out of a set, and the name `**` for any
directories on the way, including none.

`Glob.expand` lists the paths that a glob leads to. A glob with a slash at its end leads to
directories alone.
-/

namespace ArchModel

open Text

/-- A piece of an open name. -/
inductive NamePiece
  /-- Any run of characters. -/
  | run
  /-- Any character. -/
  | one
  /-- A character in one of some ranges, or in none of them. -/
  | range (negated : Bool) (ranges : List (Char × Char))
  /-- A character that stands for itself. -/
  | char (c : Char)
  deriving DecidableEq, Repr

namespace NamePiece

/-- The ranges between brackets: two characters around a hyphen, or one character. A range whose
ends are in the wrong order is empty. -/
def ranges : List Char → List (Char × Char)
  | a :: '-' :: b :: cs => (a, b) :: ranges cs
  | a :: cs => (a, a) :: ranges cs
  | [] => []

/-- The characters between an opening bracket and the closing one, and those behind; a closing
bracket at the front stands for itself. -/
def bracket? (cs : List Char) : Option (List Char × List Char) :=
  let (head, cs) := match cs with
    | '!' :: cs => (['!'], cs)
    | cs => ([], cs)
  let (head, cs) := match cs with
    | ']' :: cs => (head ++ [']'], cs)
    | cs => (head, cs)
  (cutChars ']' cs).map fun (body, rest) => (head ++ body, rest)

/-- The pieces of an open name. -/
def ofChars : Nat → List Char → List NamePiece
  | 0, _ => []
  | _ + 1, [] => []
  | fuel + 1, '*' :: cs => run :: ofChars fuel cs
  | fuel + 1, '?' :: cs => one :: ofChars fuel cs
  | fuel + 1, '[' :: cs =>
    match bracket? cs with
    | some ('!' :: body, rest) => range true (ranges body) :: ofChars fuel rest
    | some (body, rest) => range false (ranges body) :: ofChars fuel rest
    | none => char '[' :: ofChars fuel cs
  | fuel + 1, c :: cs => char c :: ofChars fuel cs

/-- Whether the pieces stand for a whole name. -/
def fits : List NamePiece → List Char → Bool
  | [], cs => cs.isEmpty
  | run :: ps, cs => (Pattern.tailsWhile (fun _ => true) cs).any fun tail => fits ps tail
  | one :: ps, cs => match cs with
    | _ :: cs => fits ps cs
    | [] => false
  | range negated ranges :: ps, cs => match cs with
    | c :: cs => (ranges.any fun (a, b) => a ≤ c && c ≤ b) != negated && fits ps cs
    | [] => false
  | char c :: ps, cs => match cs with
    | d :: cs => c == d && fits ps cs
    | [] => false

end NamePiece

/-- A step of a glob. -/
inductive GlobStep
  /-- Any directories, or none. -/
  | dirs
  /-- The directory above. -/
  | up
  /-- A name that is left open. -/
  | wild (pieces : List NamePiece)
  /-- A given name. -/
  | name (s : String)
  /-- The end of the way, which is a directory. -/
  | here
  deriving DecidableEq, Repr

/-- Why a text is no glob. -/
inductive GlobFault
  /-- It starts at the top of the tree. -/
  | absolute
  /-- Two stars stand beside other characters. -/
  | mixedStars
  deriving DecidableEq, Repr

namespace Glob

/-- Whether a name is left open. -/
def isOpen (s : String) : Bool := s.toList.any fun c => c == '*' || c == '?' || c == '['

/-- The step that a name stands for. -/
def stepOf (s : String) : Except GlobFault GlobStep :=
  if s = "**" then .ok .dirs
  else if s = ".." then .ok .up
  else if countSeq "**" s ≠ 0 then .error .mixedStars
  else if isOpen s then .ok (.wild (NamePiece.ofChars (s.length + 1) s.toList))
  else .ok (.name s)

/-- The steps that a text stands for. -/
def stepsOf (s : String) : Except GlobFault (List GlobStep) := do
  if startsWith "/" s then throw .absolute
  let steps ← ((split '/' s).filter fun part => part ≠ "" ∧ part ≠ ".").mapM stepOf
  return if endsWith "/" s then steps ++ [.here] else steps

mutual

/-- The directories at and below a path, the path before those below it. -/
def dirsBelow (p : Path) : Tree → List Path
  | .file _ => []
  | .dir entries => p :: dirsAmong p entries

/-- The directories at and below the entries of a path. -/
def dirsAmong (p : Path) : List (String × Tree) → List Path
  | [] => []
  | (name, t) :: es => dirsBelow (p.child name) t ++ dirsAmong p es

end

/-- The paths that steps lead to from a directory. A step that is followed by another one leads to
directories alone. -/
def expandFrom (t : Tree) : List GlobStep → Path → List Path
  | [], p => [p]
  | .here :: _, p => [p]
  | .up :: steps, p => expandFrom t steps (p.child "..")
  | .name s :: steps, p =>
    let q := p.child s
    if (if steps.isEmpty then t.holds q else t.holdsDir q) then expandFrom t steps q else []
  | .wild pieces :: steps, p =>
    ((t.find? p).map Tree.entries |>.getD []).flatMap fun (name, entry) =>
      if (steps.isEmpty || entry.isDir) && NamePiece.fits pieces name.toList then
        expandFrom t steps (p.child name)
      else []
  | .dirs :: steps, p =>
    let starts := ((t.find? p).map (dirsBelow p)).getD []
    dedupe (starts.flatMap fun q => expandFrom t steps q)

/-- The order of rows of names: by the first names that differ. -/
def namesLe : List String → List String → Bool
  | [], _ => true
  | _ :: _, [] => false
  | a :: as, b :: bs => if a = b then namesLe as bs else Text.inOrder a b

/-- The order of paths: by their names, outermost first. -/
def pathLe (a b : Path) : Bool := namesLe a.parts b.parts

/-- The paths that a glob leads to from a directory, worked out and in order. -/
def expand (t : Tree) (root : Path) (s : String) : Except GlobFault (List Path) := do
  let steps ← stepsOf s
  return ((expandFrom t steps root).map Path.resolve).mergeSort pathLe

end Glob

end ArchModel
