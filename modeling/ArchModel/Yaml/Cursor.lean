import ArchModel.Text.Char

/-!
# Reading a YAML text character by character

A `Cursor` is a place in a text: what is left to read, and the position reached. Reading past the
end gives `endMark`, a character that no text holds, so that the end is one more character to look
at.

* `Fault` is what makes a text no YAML, with its line.
* `Reader` is a reading step: it moves the cursor or fails.
* The character classes at the end are those of YAML: `isBreak` ends a line, `isSpaceOrEnd` ends a
  plain word.
-/

namespace ArchModel.Yaml

/-- What can be wrong with a YAML text. -/
inductive FaultCause
  | unprintable (c : Char)
  | unexpected (c : Char)
  | valueExpected
  | misplacedEntry
  | misplacedKey
  | misplacedValue
  | unmatchedBracket
  | directive
  | anchorName
  | tagForm
  | blockHeader
  | escape
  /-- An escape writes a number that is no code point. -/
  | noCharacter (code : Nat)
  | unclosedQuote
  | documentMark
  | undefinedTagHandle
  | undefinedAlias (name : String)
  | repeatedAnchor (name : String)
  | nodeExpected
  | entryExpected
  | secondDocument
  /-- There are too many collections within one another. -/
  | nesting
  | mergeOfNoMapping
  | collectionAsKey
  | unknownTag (name : String)
  | shapeOfTag
  | base64
  deriving DecidableEq, Repr

namespace FaultCause

/-- The wording of a cause. -/
def message : FaultCause → String
  | unprintable _ => "special characters are not allowed"
  | unexpected c => "found character '" ++ String.singleton c ++ "' that cannot start any token"
  | valueExpected => "could not find expected ':'"
  | misplacedEntry => "sequence entries are not allowed here"
  | misplacedKey => "mapping keys are not allowed here"
  | misplacedValue => "mapping values are not allowed here"
  | unmatchedBracket => "closing bracket without an opening one"
  | directive => "malformed directive"
  | anchorName => "expected an anchor name of letters, digits, dashes and underscores"
  | tagForm => "malformed tag"
  | blockHeader => "expected chomping or indentation indicators"
  | escape => "unknown escape"
  | noCharacter code => "no character has the code point " ++ toString code
  | unclosedQuote => "unexpected end of a quoted scalar"
  | documentMark => "found unexpected document separator"
  | undefinedTagHandle => "found undefined tag handle"
  | undefinedAlias name => "found undefined alias " ++ name
  | repeatedAnchor name => "found duplicate anchor " ++ name
  | nodeExpected => "expected the node content"
  | entryExpected => "expected another entry or the end of the collection"
  | secondDocument => "expected a single document"
  | nesting => "too many collections within one another"
  | mergeOfNoMapping => "expected a mapping or a list of mappings for merging"
  | collectionAsKey => "found unhashable key"
  | unknownTag name => "could not determine a constructor for the tag " ++ name
  | shapeOfTag => "expected a node of another kind for the tag"
  | base64 => "failed to decode base64 data"

end FaultCause

/-- A fault and the line on which it shows, counted from one. -/
structure Fault where
  /-- What is wrong. -/
  cause : FaultCause
  /-- The line. -/
  line : Nat
  deriving DecidableEq, Repr

/-- The wording of a fault. -/
def Fault.message (f : Fault) : String := f.cause.message ++ ", line " ++ toString f.line

/-- A place in a text. -/
structure Cursor where
  /-- The characters to come. -/
  rest : List Char
  /-- The number of characters passed. -/
  index : Nat := 0
  /-- The number of lines passed. -/
  line : Nat := 0
  /-- The number of characters passed in this line. -/
  column : Nat := 0
  deriving Inhabited

/-- A reading step. -/
abbrev Reader := StateT Cursor (Except Fault)

/-! ## Classes of characters -/

/-- The character read past the end. -/
def endMark : Char := '\x00'

/-- The characters that end a line. -/
def isBreak (c : Char) : Bool :=
  c == '\n' || c == '\r' || c == '\u0085' || c == '\u2028' || c == '\u2029'

/-- The end of a line or of the text. -/
def isBreakOrEnd (c : Char) : Bool := c == endMark || isBreak c

/-- A blank, or the end of a line or of the text. -/
def isGap (c : Char) : Bool := c == ' ' || isBreakOrEnd c

/-- A blank or a tab, or the end of a line or of the text. -/
def isSpaceOrEnd (c : Char) : Bool := c == '\t' || isGap c

/-- The characters of anchor names, tag handles and directive names. -/
def isWordChar (c : Char) : Bool := c.isAlphanum || c == '-' || c == '_'

/-- The characters that may stand in a YAML text. -/
def isAllowed (c : Char) : Bool :=
  let n := c.toNat
  n == 0x09 || n == 0x0a || n == 0x0d || (0x20 ≤ n && n ≤ 0x7e) || n == 0x85 ||
    (0xa0 ≤ n && n ≤ 0xd7ff) || (0xe000 ≤ n && n ≤ 0xfffd) || 0x10000 ≤ n

namespace Cursor

/-- The character `k` places ahead. -/
def peek (c : Cursor) (k : Nat := 0) : Char := c.rest.getD k endMark

/-- Whether the next three characters mark the start or the end of a document. -/
def atDocumentMark (c : Cursor) : Bool :=
  match c.rest with
  | '-' :: '-' :: '-' :: _ => isSpaceOrEnd (c.peek 3)
  | '.' :: '.' :: '.' :: _ => isSpaceOrEnd (c.peek 3)
  | _ => false

/-- The place one character on. A byte order mark takes no column. -/
def next (c : Cursor) : Cursor :=
  match c.rest with
  | [] => c
  | a :: rest =>
    if isBreak a && !(a == '\r' && rest.head? == some '\n') then
      { rest, index := c.index + 1, line := c.line + 1, column := 0 }
    else
      { rest, index := c.index + 1, line := c.line,
        column := if a == '\ufeff' then c.column else c.column + 1 }

/-- The place some characters on. -/
def forward : Nat → Cursor → Cursor
  | 0, c => c
  | n + 1, c => forward n c.next

end Cursor

namespace Reader

/-- Fail at the place reached. -/
def fail {α : Type} (cause : FaultCause) : Reader α := fun c => .error ⟨cause, c.line + 1⟩

/-- The character `k` places ahead. -/
def peek (k : Nat := 0) : Reader Char := return (← get).peek k

/-- Pass some characters. -/
def skip (n : Nat := 1) : Reader Unit := modify (Cursor.forward n)

/-- Pass the characters of a class and return them. -/
def takeWhile (p : Char → Bool) : Reader (List Char) := do
  let cs := (← get).rest.takeWhile p
  skip cs.length
  return cs

/-- Pass the characters of a class. -/
def skipWhile (p : Char → Bool) : Reader Unit := do
  let _ ← takeWhile p

/-- Pass the end of a line, if one is here, and return the characters it counts as. -/
def lineBreak : Reader (List Char) := do
  match (← get).rest with
  | '\r' :: '\n' :: _ => skip 2; return ['\n']
  | c :: _ =>
    if c == '\u2028' || c == '\u2029' then skip; return [c]
    else if isBreak c then skip; return ['\n']
    else return []
  | [] => return []

/-- Pass blanks, a comment and the end of the line; anything else is a fault. -/
def restOfLine (cause : FaultCause) : Reader Unit := do
  skipWhile (· == ' ')
  if (← peek) == '#' then skipWhile (!isBreakOrEnd ·)
  unless isBreakOrEnd (← peek) do fail cause
  let _ ← lineBreak

end Reader

end ArchModel.Yaml
