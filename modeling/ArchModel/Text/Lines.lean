import ArchModel.Text.Char

/-!
# Trimming, lines and margins

Operations on texts that are defined on their lists of characters; `toList_strip` and its
companions say so, and proofs work on the lists.

* `strip` trims white space off both ends.
* `lines` breaks a text at its line breaks; carriage return and line feed together are one break,
  and a break at the very end starts no further line.
* `cut` divides a text at the first occurrence of a character, `cutSeq` at that of a sequence.
* `expandTabs` replaces each tab by the blanks up to the next multiple of eight columns.
* `dedent` removes the common margin of a text written in an indented place.
-/

namespace ArchModel.Text

/-! ## Trimming -/

/-- The list without white space at its front. -/
def stripStartChars (cs : List Char) : List Char := cs.dropWhile isBlank

/-- The list without white space at its end. -/
def stripEndChars (cs : List Char) : List Char := (cs.reverse.dropWhile isBlank).reverse

/-- The list without white space at either end. -/
def stripChars (cs : List Char) : List Char := stripEndChars (stripStartChars cs)

/-- The text without white space at either end. -/
def strip (s : String) : String := String.ofList (stripChars s.toList)

@[simp] theorem toList_strip (s : String) : (strip s).toList = stripChars s.toList :=
  String.toList_ofList

/-! ## Lines -/

/-- The lines of a list of characters, the current line being kept in reverse in `current`. -/
def linesFrom (current : List Char) : List Char → List (List Char)
  | [] => if current.isEmpty then [] else [current.reverse]
  | '\r' :: '\n' :: cs => current.reverse :: linesFrom [] cs
  | c :: cs => if isLineBreak c then current.reverse :: linesFrom [] cs
      else linesFrom (c :: current) cs

/-- The lines of a text, without their line breaks. -/
def lines (s : String) : List String := (linesFrom [] s.toList).map String.ofList

/-! ## Cutting -/

/-- The characters before and after the first `sep`, if there is one. -/
def cutChars (sep : Char) : List Char → Option (List Char × List Char)
  | [] => none
  | c :: cs => if c = sep then some ([], cs) else (cutChars sep cs).map fun (a, b) => (c :: a, b)

/-- The texts before and after the first `sep`; the whole text and nothing if there is none. -/
def cut (sep : Char) (s : String) : String × String :=
  match cutChars sep s.toList with
  | some (a, b) => (String.ofList a, String.ofList b)
  | none => (s, "")

/-- The characters before and after the first occurrence of the sequence `sep`. -/
def cutSeqChars (sep : List Char) : List Char → Option (List Char × List Char)
  | [] => if sep.isEmpty then some ([], []) else none
  | c :: cs =>
    if sep.isPrefixOf (c :: cs) then some ([], (c :: cs).drop sep.length)
    else (cutSeqChars sep cs).map fun (a, b) => (c :: a, b)

/-- The texts before and after the first occurrence of the sequence `sep`, if there is one. -/
def cutSeq (sep s : String) : Option (String × String) :=
  (cutSeqChars sep.toList s.toList).map fun (a, b) => (String.ofList a, String.ofList b)

/-- The number of occurrences of a sequence that do not overlap, read from the left. -/
def countSeqChars (sep : List Char) : List Char → Nat
  | [] => 0
  | c :: cs =>
    if !sep.isEmpty && sep.isPrefixOf (c :: cs) then
      1 + countSeqChars sep ((c :: cs).drop (max 1 sep.length))
    else countSeqChars sep cs
  termination_by cs => cs.length
  decreasing_by all_goals (simp; try omega)

/-- The number of occurrences of `sep` that do not overlap. -/
def countSeq (sep s : String) : Nat := countSeqChars sep.toList s.toList

/-- The parts of a text between the occurrences of a character; there is always at least one. -/
def split (sep : Char) (s : String) : List String :=
  (s.toList.splitOn sep).map String.ofList

/-- Whether the text starts with a sequence. -/
def startsWith (start s : String) : Bool := start.toList.isPrefixOf s.toList

/-- Whether the text ends with a sequence. -/
def endsWith (ending s : String) : Bool := ending.toList.isSuffixOf s.toList

/-- Whether a character occurs in the text. -/
def containsChar (c : Char) (s : String) : Bool := s.toList.contains c

/-- The texts joined by a separator. -/
def join (sep : String) (parts : List String) : String := sep.intercalate parts

/-! ## Margins -/

/-- Tabs as blanks, the next character being at `column` of its line. -/
def expandTabsFrom (column : Nat) : List Char → List Char
  | [] => []
  | c :: cs =>
    if c = '\t' then
      let width := 8 - column % 8
      List.replicate width ' ' ++ expandTabsFrom (column + width) cs
    else if c = '\n' ∨ c = '\r' then c :: expandTabsFrom 0 cs
    else c :: expandTabsFrom (column + 1) cs

/-- Each tab as the blanks up to the next multiple of eight columns. -/
def expandTabs (s : String) : String := String.ofList (expandTabsFrom 0 s.toList)

/-- The width of the white space before the first other character; none for a blank line. -/
def margin? (line : List Char) : Option Nat :=
  let content := stripStartChars line
  if content.isEmpty then none else some (line.length - content.length)

/-- The lines after the first without their common margin, and the first without its own. -/
def dedentLines : List (List Char) → List (List Char)
  | [] => []
  | first :: rest =>
    let margin := (rest.filterMap margin?).min?
    stripStartChars first :: rest.map fun line => line.drop (margin.getD 0)

/-- The list without the empty members at either end. -/
def trimEmpty (ls : List (List Char)) : List (List Char) :=
  ((ls.dropWhile List.isEmpty).reverse.dropWhile List.isEmpty).reverse

/-- A text as it reads without the indentation of the place where it was written: tabs become
blanks, the common margin of the lines after the first goes, and so do empty lines at either end.
Only a line feed divides lines here. -/
def dedent (s : String) : String :=
  let ls := (expandTabsFrom 0 s.toList).splitOn '\n'
  String.ofList (['\n'].intercalate (trimEmpty (dedentLines ls)))

end ArchModel.Text
