import ArchModel.Text.Lines

/-!
# Patterns over relative paths

A pattern selects relative paths. In it `*` stands for any run of characters within a segment, `?`
for one character of a segment, `**` for any run of characters, and `**/` for any directories,
including none.

* `Pattern.ofText` reads a pattern.
* `Pattern.accepts` decides whether a path is selected. A line feed at the very end of a path is
  passed over, and `**` runs over no line feed.
-/

namespace ArchModel

open Text

/-- A piece of a pattern. -/
inductive PatternPiece
  /-- Any directories, or none. -/
  | dirs
  /-- Any run of characters. -/
  | any
  /-- Any run of characters of one segment. -/
  | run
  /-- One character of a segment. -/
  | one
  /-- A character that stands for itself. -/
  | char (c : Char)
  deriving DecidableEq, Repr

/-- A pattern, piece by piece. -/
structure Pattern where
  /-- The pieces in order. -/
  pieces : List PatternPiece
  deriving DecidableEq, Repr

namespace Pattern

/-- The pieces that characters stand for. -/
def piecesOf : List Char → List PatternPiece
  | [] => []
  | '*' :: '*' :: '/' :: cs => .dirs :: piecesOf cs
  | '*' :: '*' :: cs => .any :: piecesOf cs
  | '*' :: cs => .run :: piecesOf cs
  | '?' :: cs => .one :: piecesOf cs
  | c :: cs => .char c :: piecesOf cs

/-- The pattern that a text stands for. -/
def ofText (s : String) : Pattern := ⟨piecesOf s.toList⟩

/-- What is left of a list after each run of leading members in a class, shortest run first. -/
def tailsWhile {α : Type} (p : α → Bool) : List α → List (List α)
  | [] => [[]]
  | a :: l => (a :: l) :: if p a then tailsWhile p l else []

/-- Whether the pieces stand for a whole list of characters. -/
def matchPieces : List PatternPiece → List Char → Bool
  | [], cs => cs.isEmpty || cs == ['\n']
  | .char c :: ps, cs => match cs with
    | d :: cs => c == d && matchPieces ps cs
    | [] => false
  | .one :: ps, cs => match cs with
    | d :: cs => d != '/' && matchPieces ps cs
    | [] => false
  | .run :: ps, cs => (tailsWhile (· != '/') cs).any fun tail => matchPieces ps tail
  | .any :: ps, cs => (tailsWhile (· != '\n') cs).any fun tail => matchPieces ps tail
  | .dirs :: ps, cs => matchPieces ps cs || (tailsWhile (· != '\n') cs).any fun tail =>
      match tail with
      | '/' :: tail => matchPieces ps tail
      | _ => false

/-- Whether a pattern selects a path. -/
def accepts (p : Pattern) (path : String) : Bool := matchPieces p.pieces path.toList

end Pattern

end ArchModel
