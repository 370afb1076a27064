import ArchModel.Yaml.Scalar

/-!
# The row of tokens of a text

`Token.scan` divides a YAML text into its tokens. Two things are known only after the fact, and the
state `Scanner` keeps track of them.

* Indentation opens and closes block collections: `Scanner.indent` is the column of the innermost
  one, `Scanner.indents` those around it.
* A key without an indicator shows only at the colon behind it: `Scanner.keys` holds, for each
  level of brackets, the place where a key may have started. At the colon the key token, and the
  start of the mapping if it is the first key, are put in at that place.
-/

namespace ArchModel.Yaml

/-- A place where a key without an indicator may have started. -/
structure KeyStart where
  /-- The number of tokens before it. -/
  position : Nat
  /-- Whether the indentation demands that it is a key. -/
  required : Bool
  /-- The place in the text. -/
  index : Nat
  /-- Its line. -/
  line : Nat
  /-- Its column. -/
  column : Nat

/-- The state of dividing a text into tokens. -/
structure Scanner where
  /-- The place reached. -/
  cursor : Cursor
  /-- The tokens so far. -/
  tokens : Array Token := #[]
  /-- The possible key of each open bracket, innermost first; the last is that of the block
  context. -/
  keys : List (Option KeyStart) := [none]
  /-- The column of the innermost block collection, minus one outside of all. -/
  indent : Int := -1
  /-- The columns of the block collections around it. -/
  indents : List Int := []
  /-- Whether a key without an indicator may start here. -/
  allowKey : Bool := true
  /-- Whether the end was reached. -/
  done : Bool := false

/-- A step of dividing a text into tokens. -/
abbrev Scan := StateT Scanner (Except Fault)

namespace Scan

/-- Run a reading step. -/
def read {α : Type} (r : Reader α) : Scan α := fun s =>
  match r s.cursor with
  | .ok (a, cursor) => .ok (a, { s with cursor })
  | .error e => .error e

/-- Fail at the place reached. -/
def fail {α : Type} (cause : FaultCause) : Scan α := read (Reader.fail cause)

/-- Add a token at the end. -/
def emit (t : Token) : Scan Unit := modify fun s => { s with tokens := s.tokens.push t }

/-- Whether some bracket is open. -/
def inFlow : Scan Bool := return 1 < (← get).keys.length

/-- Set whether a key may start. -/
def allow (b : Bool) : Scan Unit := modify fun s => { s with allowKey := b }

/-! ## Keys and indentation -/

/-- Whether a possible key can no longer be one: its line ended, or it is too long. -/
def isStale (s : Scanner) (k : KeyStart) : Bool :=
  k.line != s.cursor.line || 1024 < s.cursor.index - k.index

/-- Drop the possible keys that can no longer be keys. -/
def dropStale : Scan Unit := do
  let s ← get
  let stale := fun k : Option KeyStart => k.any (isStale s)
  if s.keys.any fun k => stale k && k.any (·.required) then fail .valueExpected
  set { s with keys := s.keys.map fun k => if stale k then none else k }

/-- Drop the possible key of the innermost bracket. -/
def dropKey : Scan Unit := do
  let s ← get
  match s.keys with
  | some k :: ks =>
    if k.required then fail .valueExpected
    set { s with keys := none :: ks }
  | _ => pure ()

/-- Take down that a key may start here. -/
def saveKey : Scan Unit := do
  let s ← get
  if s.allowKey then
    dropKey
    let c := s.cursor
    let k : KeyStart :=
      { position := s.tokens.size
        required := s.keys.length == 1 && s.indent == (c.column : Int)
        index := c.index, line := c.line, column := c.column }
    modify fun s => { s with keys := some k :: s.keys.drop 1 }

/-- Close the block collections that are indented more than a column. -/
def unwindFrom (column : Int) : List Int → Scan Unit
  | [] => pure ()
  | outer :: outers => do
    if column < (← get).indent then
      emit .blockEnd
      modify fun s => { s with indent := outer, indents := outers }
      unwindFrom column outers

/-- Close the block collections that are indented more than a column; none within brackets. -/
def unwind (column : Int) : Scan Unit := do
  unless ← inFlow do unwindFrom column (← get).indents

/-- Open a block collection at a column, unless one is open there: the answer. -/
def addIndent (column : Nat) : Scan Bool := do
  let s ← get
  if s.indent < (column : Int) then
    set { s with indents := s.indent :: s.indents, indent := column }
    return true
  else return false

/-! ## Tokens -/

/-- Close everything that is open outside brackets, before a directive, a document or the end. -/
def closeAll : Scan Unit := do
  unwind (-1)
  dropKey
  allow false

/-- The end of the text. -/
def streamEnd : Scan Unit := do
  closeAll
  emit .streamEnd
  modify fun s => { s with done := true }

/-- A directive. -/
def directive : Scan Unit := do
  closeAll
  emit (.directive (← read Reader.directive))

/-- The start or end of a document. -/
def documentMark (t : Token) : Scan Unit := do
  closeAll
  read (Reader.skip 3)
  emit t

/-- An opening bracket. -/
def openFlow (t : Token) : Scan Unit := do
  saveKey
  modify fun s => { s with keys := none :: s.keys, allowKey := true }
  read (Reader.skip 1)
  emit t

/-- A closing bracket. -/
def closeFlow (t : Token) : Scan Unit := do
  dropKey
  let s ← get
  if s.keys.length ≤ 1 then fail .unmatchedBracket
  set { s with keys := s.keys.drop 1, allowKey := false }
  read (Reader.skip 1)
  emit t

/-- A comma between entries. -/
def flowEntry : Scan Unit := do
  allow true
  dropKey
  read (Reader.skip 1)
  emit .flowEntry

/-- Open a block collection before an indicator that may only stand where a key may start. -/
def openBlock (t : Token) (cause : FaultCause) : Scan Unit := do
  let s ← get
  unless s.allowKey do fail cause
  if ← addIndent s.cursor.column then emit t

/-- A dash before an entry. -/
def blockEntry : Scan Unit := do
  unless ← inFlow do openBlock .blockSequenceStart .misplacedEntry
  allow true
  dropKey
  read (Reader.skip 1)
  emit .blockEntry

/-- A question mark before a key. -/
def key : Scan Unit := do
  unless ← inFlow do openBlock .blockMappingStart .misplacedKey
  allow (!(← inFlow))
  dropKey
  read (Reader.skip 1)
  emit .key

/-- A colon before a value. If a key without an indicator has started on this level, its token is
put in where it started. -/
def value : Scan Unit := do
  let s ← get
  match s.keys with
  | some k :: ks =>
    set { s with keys := none :: ks, tokens := s.tokens.insertIdxIfInBounds k.position .key }
    unless ← inFlow do
      if ← addIndent k.column then
        modify fun s =>
          { s with tokens := s.tokens.insertIdxIfInBounds k.position .blockMappingStart }
    allow false
  | _ =>
    unless ← inFlow do openBlock .blockMappingStart .misplacedValue
    allow (!(← inFlow))
    dropKey
  read (Reader.skip 1)
  emit .value

/-- A token that may start a key and after which none may start. -/
def keyed (r : Reader Token) : Scan Unit := do
  saveKey
  allow false
  emit (← read r)

/-- A literal or folded block. -/
def blockScalar (folded : Bool) : Scan Unit := do
  allow true
  dropKey
  let text ← read (Reader.block folded (← get).indent)
  emit (.scalar text false)

/-- A scalar without quotes. After a line break at its end a key may start. -/
def plain : Scan Unit := do
  saveKey
  let (text, broken) ← read (Reader.plain (← inFlow) ((← get).indent + 1))
  allow broken
  emit (.scalar text true)

/-- Whether a plain scalar may start with a character that another one follows. -/
def startsPlain (inFlow : Bool) (c d : Char) : Bool :=
  !(isSpaceOrEnd c || "-?:,[]\x7b\x7d#&*!|>'\"%@".toList.contains c || c == '\x60') ||
    (!isSpaceOrEnd d && (c == '-' || (!inFlow && (c == '?' || c == ':'))))

/-- Pass blanks, comments and line breaks; a line break outside brackets allows a key. -/
def toNextToken : Nat → Scan Unit
  | 0 => pure ()
  | fuel + 1 => do
    read (Reader.skipWhile (· == ' '))
    if (← read Reader.peek) == '#' then read (Reader.skipWhile (!isBreakOrEnd ·))
    if isBreak (← read Reader.peek) then
      let _ ← read Reader.lineBreak
      unless ← inFlow do allow true
      toNextToken fuel

/-- The next token, with the ends of block collections before it. -/
def next : Scan Unit := do
  let c := (← get).cursor
  if c.index == 0 && c.peek == '\ufeff' then read (Reader.skip 1)
  toNextToken (c.rest.length + 1)
  dropStale
  let s ← get
  let c := s.cursor
  unwind c.column
  let flow ← inFlow
  let a := c.peek
  let b := c.peek 1
  if a == endMark then streamEnd
  else if a == '%' && c.column == 0 then directive
  else if a == '-' && c.column == 0 && c.atDocumentMark then documentMark .documentStart
  else if a == '.' && c.column == 0 && c.atDocumentMark then documentMark .documentEnd
  else if a == '[' then openFlow .flowSequenceStart
  else if a == '\x7b' then openFlow .flowMappingStart
  else if a == ']' then closeFlow .flowSequenceEnd
  else if a == '\x7d' then closeFlow .flowMappingEnd
  else if a == ',' then flowEntry
  else if a == '-' && isSpaceOrEnd b then blockEntry
  else if a == '?' && (flow || isSpaceOrEnd b) then key
  else if a == ':' && (flow || isSpaceOrEnd b) then value
  else if a == '*' then keyed (do return .alias (← Reader.anchorName))
  else if a == '&' then keyed (do return .anchor (← Reader.anchorName))
  else if a == '!' then keyed Reader.tag
  else if a == '|' && !flow then blockScalar false
  else if a == '>' && !flow then blockScalar true
  else if a == '\'' then keyed (do return .scalar (← Reader.quotedScalar false) false)
  else if a == '"' then keyed (do return .scalar (← Reader.quotedScalar true) false)
  else if startsPlain flow a b then plain
  else fail (.unexpected a)

/-- The tokens in front of a place where nothing more can be read. A token that may turn out to
start a key is known only together with what is behind it. -/
def stop (s : Scanner) (f : Fault) : List Token :=
  let (f, s) := match dropStale s with
    | .ok (_, s) => (f, s)
    | .error g => (g, s)
  let known := (s.keys.filterMap id).foldl (fun n k => min n k.position) s.tokens.size
  s.tokens.toList.take known ++ [.bad f]

/-- All tokens; each step passes at least one character or reaches the end. -/
def all : Nat → Scanner → List Token
  | 0, s => s.tokens.toList
  | fuel + 1, s =>
    match next s with
    | .error f => stop s f
    | .ok (_, s) => if s.done then s.tokens.toList else all fuel s

end Scan

/-- The line of a position in a list of characters. -/
def lineAt (cs : List Char) (position : Nat) : Nat := (cs.take position).countP isBreak + 1

/-- The tokens of a text. -/
def Token.scan (cs : List Char) : List Token :=
  match cs.zipIdx.find? fun (c, _) => !isAllowed c with
  | some (c, i) => [.bad ⟨.unprintable c, lineAt cs i⟩]
  | none => Scan.all (cs.length + 1) { cursor := { rest := cs } }

end ArchModel.Yaml
