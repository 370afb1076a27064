import ArchModel.Tag.Parse

/-!
# Tags within a docstring

A docstring is free text followed by tag blocks. A block starts at a line with an at-sign and a
word, its head, and runs up to the next head; inside a multi-line value no line is a head.

* `Docstring.head?` reads the head of a block.
* `Docstring.split` divides a docstring into its comment and its blocks, each with the position of
  its head among the lines of the docstring without its margin.
-/

namespace ArchModel

open Text

/-- A tag block as it stands in a docstring. -/
structure TagBlock where
  /-- The word after the at-sign. -/
  name : String
  /-- The position of the head among the lines. -/
  offset : Nat
  /-- The rest of the head and the lines below it. -/
  lines : List String
  deriving DecidableEq, Repr, Inhabited

/-- The text of a block, to be read under a schema. -/
def TagBlock.content (b : TagBlock) : String := join "\n" b.lines

/-- A docstring divided into free text and tag blocks. -/
structure Docstring where
  /-- The trimmed lines before the first block that are not blank, one under the other. -/
  comment : String := ""
  /-- The blocks in order. -/
  blocks : List TagBlock := []
  deriving DecidableEq, Repr, Inhabited

namespace Docstring

/-- The name and the rest of a trimmed line that is the head of a block. -/
def head? (stripped : String) : Option (String × String) :=
  match stripped.toList with
  | '@' :: cs =>
    let name := cs.takeWhile isWord
    if name.isEmpty then none
    else some (String.ofList name, String.ofList (stripStartChars (cs.dropWhile isWord)))
  | _ => none

/-- The state of dividing a docstring: what was read, in reverse, and whether a multi-line value is
open. -/
structure Splitter where
  /-- The lines of the comment, last first. -/
  comment : List String := []
  /-- The blocks, last first, each with its lines last first. -/
  blocks : List TagBlock := []
  /-- Whether the lines so far leave a multi-line value open. -/
  inValue : Bool := false
  deriving DecidableEq, Repr

namespace Splitter

/-- The state after a line of a block, whose delimiters may open or close a value. -/
def toggle (s : Splitter) (stripped : String) : Splitter :=
  { s with inValue := s.inValue != (countSeq multiline stripped % 2 == 1) }

/-- Read the line at a position. -/
def step (s : Splitter) (line : String) (position : Nat) : Splitter :=
  let stripped := strip line
  match if s.inValue then none else head? stripped with
  | some (name, rest) =>
    toggle { s with blocks := ⟨name, position, [rest]⟩ :: s.blocks } stripped
  | none =>
    match s.blocks with
    | [] => if stripped = "" then s else { s with comment := stripped :: s.comment }
    | b :: bs => toggle { s with blocks := { b with lines := line :: b.lines } :: bs } stripped

/-- The docstring that was read. -/
def finish (s : Splitter) : Docstring where
  comment := join "\n" s.comment.reverse
  blocks := s.blocks.reverse.map fun b => { b with lines := b.lines.reverse }

end Splitter

/-- The comment and the blocks of a docstring. -/
def split (text : String) : Docstring :=
  ((lines (dedent text)).zipIdx.foldl (fun s (line, i) => s.step line i) ({} : Splitter)).finish

end Docstring

end ArchModel
