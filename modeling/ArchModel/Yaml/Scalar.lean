import ArchModel.Yaml.Token
import ArchModel.Text.Utf8

/-!
# Reading scalars, anchors, tags and directives

Each reader starts at the first character of its token and ends behind the last one.

* `Reader.plain` reads a scalar without quotes, over several lines where the indentation allows.
* `Reader.quotedScalar` reads a scalar in single or double quotes.
* `Reader.block` reads a literal or folded block.
* A line break within a scalar becomes a blank, unless further line breaks follow, which then stand
  for themselves (`foldBreaks`).
-/

namespace ArchModel.Yaml.Reader

open Text

/-! ## Names -/

/-- The name of an anchor or an alias, after its indicator. -/
def anchorName : Reader String := do
  skip
  let cs ← takeWhile isWordChar
  if cs.isEmpty then fail .anchorName
  let c ← peek
  unless isSpaceOrEnd c || "?:,]\x7d%@`".toList.contains c do fail .anchorName
  return String.ofList cs

/-- Whether a character may stand in a tag; `%` starts an escape there. -/
def isTagChar (c : Char) : Bool :=
  c.isAlphanum || "-;/?:@&=+$,_.!~*'()[]%".toList.contains c

/-- The bytes written by escapes that follow each other. -/
def tagBytes : List Char → Option (List Nat × List Char)
  | '%' :: a :: b :: cs => do
    let x ← hexDigit? a
    let y ← hexDigit? b
    let (bytes, rest) ← tagBytes cs
    return ((x * 16 + y) :: bytes, rest)
  | '%' :: _ => none
  | cs => some ([], cs)

/-- The characters of a tag with the escapes replaced. -/
def unescapeTag : Nat → List Char → Option (List Char)
  | _, [] => some []
  | 0, _ => none
  | fuel + 1, '%' :: cs => do
    let (bytes, rest) ← tagBytes ('%' :: cs)
    let decoded ← (decodeUtf8 bytes).toOption
    let more ← unescapeTag fuel rest
    return decoded ++ more
  | fuel + 1, c :: cs => (unescapeTag fuel cs).map (c :: ·)

/-- The suffix of a tag, or the meaning of a handle. -/
def tagSuffix (cause : FaultCause) : Reader String := do
  let cs ← takeWhile isTagChar
  if cs.isEmpty then fail cause
  match unescapeTag cs.length cs with
  | some cs => return String.ofList cs
  | none => fail cause

/-- The handle of a tag: an exclamation mark, or a word between two. -/
def tagHandle (cause : FaultCause) : Reader String := do
  unless (← peek) == '!' do fail cause
  skip
  if (← peek) == ' ' then return "!"
  let cs ← takeWhile isWordChar
  unless (← peek) == '!' do fail cause
  skip
  return String.ofList ('!' :: cs ++ ['!'])

/-- A tag: `!<...>`, a handle with a suffix, or the exclamation mark alone. -/
def tag : Reader Token := do
  let rest := (← get).rest.drop 1
  let token ← match rest.headD endMark with
    | '<' => do
      skip 2
      let suffix ← tagSuffix .tagForm
      unless (← peek) == '>' do fail .tagForm
      skip
      pure (Token.tag none suffix)
    | c => do
      if isSpaceOrEnd c then
        skip
        pure (Token.tag none "!")
      else
        let handle ←
          if (rest.takeWhile (!isGap ·)).contains '!' then tagHandle .tagForm
          else do skip; pure "!"
        let suffix ← tagSuffix .tagForm
        pure (Token.tag (some handle) suffix)
  unless isGap (← peek) do fail .tagForm
  return token

/-- A number in a directive. -/
def directiveNumber : Reader Nat := do
  let cs ← takeWhile Char.isDigit
  if cs.isEmpty then fail .directive
  return decimalValue cs

/-- A directive, with the rest of its line. -/
def directive : Reader Directive := do
  skip
  let name ← takeWhile isWordChar
  if name.isEmpty then fail .directive
  unless isGap (← peek) do fail .directive
  let d ←
    if name == "YAML".toList then do
      skipWhile (· == ' ')
      let major ← directiveNumber
      unless (← peek) == '.' do fail .directive
      skip
      let minor ← directiveNumber
      unless isGap (← peek) do fail .directive
      pure (Directive.version major minor)
    else if name == "TAG".toList then do
      skipWhile (· == ' ')
      let handle ← tagHandle .directive
      unless (← peek) == ' ' do fail .directive
      skipWhile (· == ' ')
      let meaning ← tagSuffix .directive
      unless isGap (← peek) do fail .directive
      pure (Directive.tag handle meaning)
    else do
      skipWhile (!isBreakOrEnd ·)
      pure Directive.other
  restOfLine .directive
  return d

/-! ## Line breaks within scalars -/

/-- A line break and those after it as they read in a folded scalar: the first one alone is a
blank, and it says nothing when others follow. -/
def foldBreaks (first more : List Char) : List Char :=
  if first != ['\n'] then first ++ more else if more.isEmpty then [' '] else more

/-- The line breaks from here on, blanks and tabs between them being passed. In a quoted scalar no
document may start or end. -/
def quotedBreaks : Nat → Reader (List Char)
  | 0 => return []
  | fuel + 1 => do
    if (← get).atDocumentMark then fail .documentMark
    skipWhile fun c => c == ' ' || c == '\t'
    if isBreak (← peek) then
      let b ← lineBreak
      return b ++ (← quotedBreaks fuel)
    else return []

/-! ## Quoted scalars -/

/-- The character that a letter behind a backslash stands for. -/
def escaped? (c : Char) : Option Char :=
  match c with
  | '0' => some '\x00'
  | 'a' => some '\x07'
  | 'b' => some '\x08'
  | 't' => some '\t'
  | '\t' => some '\t'
  | 'n' => some '\n'
  | 'v' => some '\x0b'
  | 'f' => some '\x0c'
  | 'r' => some '\r'
  | 'e' => some '\x1b'
  | ' ' => some ' '
  | '"' => some '"'
  | '\\' => some '\\'
  | '/' => some '/'
  | 'N' => some '\u0085'
  | '_' => some '\u00a0'
  | 'L' => some '\u2028'
  | 'P' => some '\u2029'
  | _ => none

/-- The number of hexadecimal digits behind a letter that writes a character by its code point. -/
def codeWidth? (c : Char) : Option Nat :=
  match c with
  | 'x' => some 2
  | 'u' => some 4
  | 'U' => some 8
  | _ => none

/-- The number that the next characters write in `width` hexadecimal digits. -/
def codeAhead? (width : Nat) (cs : List Char) : Option Nat := do
  let digits := cs.take width
  if digits.length < width then none
  return ofDigits 16 (← digits.mapM hexDigit?)

/-- A character written by its code point in `width` digits. -/
def codedChar (width : Nat) : Reader Char := do
  match codeAhead? width (← get).rest with
  | none => fail .escape
  | some code =>
    match charOfCode? code with
    | some c => skip width; return c
    | none => fail (.noCharacter code)

/-- The characters behind a backslash in double quotes. -/
def escape (fuel : Nat) : Reader (List Char) := do
  skip
  let c ← peek
  match escaped? c, codeWidth? c with
  | some d, _ => skip; return [d]
  | none, some width =>
    skip
    return [← codedChar width]
  | none, none =>
    if isBreak c then
      let _ ← lineBreak
      quotedBreaks fuel
    else fail .escape

/-- The characters of a quoted scalar up to its closing quote. -/
def quotedChars (double : Bool) : Nat → Reader (List Char)
  | 0 => fail .unclosedQuote
  | fuel + 1 => do
    let c ← peek
    if c == ' ' || c == '\t' then
      let blanks ← takeWhile fun c => c == ' ' || c == '\t'
      if isBreak (← peek) then return (← quotedChars double fuel)
      else return blanks ++ (← quotedChars double fuel)
    else if isBreak c then
      let first ← lineBreak
      let more ← quotedBreaks (fuel + 1)
      return foldBreaks first more ++ (← quotedChars double fuel)
    else if c == endMark then fail .unclosedQuote
    else if double && c == '"' then return []
    else if double && c == '\\' then
      let cs ← escape (fuel + 1)
      return cs ++ (← quotedChars double fuel)
    else if !double && c == '\'' then
      if (← peek 1) == '\'' then
        skip 2
        return '\'' :: (← quotedChars double fuel)
      else return []
    else
      skip
      return c :: (← quotedChars double fuel)

/-- A scalar in quotes. -/
def quotedScalar (double : Bool) : Reader String := do
  skip
  let cs ← quotedChars double ((← get).rest.length + 1)
  skip
  return String.ofList cs

/-! ## Plain scalars -/

/-- Whether a plain scalar ends before a character that another one follows. Within brackets it
also ends at their punctuation. -/
def endsPlain (inFlow : Bool) (c d : Char) : Bool :=
  isSpaceOrEnd c ||
    (c == ':' && (isSpaceOrEnd d || (inFlow && ",[]\x7b\x7d".toList.contains d))) ||
    (inFlow && ",?[]\x7b\x7d".toList.contains c)

/-- The characters of a plain scalar up to the next gap. -/
def plainWord (inFlow : Bool) : List Char → List Char
  | [] => []
  | c :: cs => if endsPlain inFlow c (cs.headD endMark) then [] else c :: plainWord inFlow cs

/-- The line breaks from here on, blanks between them being passed; nothing if a document starts or
ends at one of them. -/
def plainBreaks : Nat → Reader (Option (List Char))
  | 0 => return some []
  | fuel + 1 => do
    if (← get).atDocumentMark then return none
    skipWhile (· == ' ')
    if isBreak (← peek) then
      let b ← lineBreak
      return (← plainBreaks fuel).map (b ++ ·)
    else return some []

/-- The gap after a word of a plain scalar as it reads before a further word, and whether it holds
a line break. A gap before the start or end of a document is empty. -/
def plainGap : Reader (List Char × Bool) := do
  let blanks ← takeWhile (· == ' ')
  if isBreak (← peek) then
    let first ← lineBreak
    match ← plainBreaks ((← get).rest.length + 1) with
    | some more => return (foldBreaks first more, true)
    | none => return ([], true)
  else return (blanks, false)

/-- The words of a plain scalar, `gap` standing before the next one; and whether the scalar ended
behind a line break. -/
def plainWords (inFlow : Bool) (indent : Int) (gap : List Char) (broken : Bool) :
    Nat → Reader (List Char × Bool)
  | 0 => return ([], broken)
  | fuel + 1 => do
    if (← peek) == '#' then return ([], broken)
    let word := plainWord inFlow (← get).rest
    if word.isEmpty then return ([], broken)
    skip word.length
    let (next, broken) ← plainGap
    let c ← get
    if next.isEmpty || c.peek == '#' || (!inFlow && (c.column : Int) < indent) then
      return (gap ++ word, broken)
    let (more, broken) ← plainWords inFlow indent next broken fuel
    return (gap ++ word ++ more, broken)

/-- A plain scalar, and whether a line break was passed at its end. -/
def plain (inFlow : Bool) (indent : Int) : Reader (String × Bool) := do
  let (cs, broken) ← plainWords inFlow indent [] false ((← get).rest.length + 1)
  return (String.ofList cs, broken)

/-! ## Block scalars -/

/-- What becomes of the line breaks at the end of a block scalar. -/
inductive Chomping
  /-- They go. -/
  | strip
  /-- The first one stays. -/
  | clip
  /-- They stay. -/
  | keep
  deriving DecidableEq, Repr

/-- The chomping that an indicator stands for. -/
def chomping? (c : Char) : Option Chomping :=
  if c == '+' then some .keep else if c == '-' then some .strip else none

/-- An indentation in a block header; zero is none. -/
def indentDigit : Reader (Option Nat) := do
  let c ← peek
  if c.isDigit then
    if c == '0' then fail .blockHeader
    skip
    return some (c.toNat - '0'.toNat)
  else return none

/-- The header of a block scalar: chomping and indentation in either order, then the line's end. -/
def blockHeader : Reader (Chomping × Option Nat) := do
  let (chomping, indent) ← match chomping? (← peek) with
    | some chomping => do
      skip
      pure (chomping, ← indentDigit)
    | none => do
      let indent ← indentDigit
      match indent, chomping? (← peek) with
      | some _, some chomping => do skip; pure (chomping, indent)
      | _, _ => pure (Chomping.clip, indent)
  unless isGap (← peek) do fail .blockHeader
  restOfLine .blockHeader
  return (chomping, indent)

/-- The empty lines at the head of a block scalar, and the widest indentation among them and the
first other line. -/
def blockIndent (widest : Nat) : Nat → Reader (List Char × Nat)
  | 0 => return ([], widest)
  | fuel + 1 => do
    let c ← peek
    if c == ' ' then
      skip
      blockIndent (max widest (← get).column) fuel
    else if isBreak c then
      let b ← lineBreak
      let (breaks, widest) ← blockIndent widest fuel
      return (b ++ breaks, widest)
    else return ([], widest)

/-- The empty lines from here on; of the next other line at most `indent` blanks are passed. -/
def blockBreaks (indent : Nat) : Nat → Reader (List Char)
  | 0 => return []
  | fuel + 1 => do
    let c ← get
    let blanks := ((c.rest.takeWhile (· == ' ')).length)
    skip (min blanks (indent - c.column))
    if isBreak (← peek) then
      let b ← lineBreak
      return b ++ (← blockBreaks indent fuel)
    else return []

/-- The lines of a block scalar, `breaks` standing before the next one; then the last line break
and the empty lines after it. -/
def blockLines (folded : Bool) (indent : Nat) (breaks : List Char) :
    Nat → Reader (List Char × List Char × List Char)
  | 0 => return ([], [], breaks)
  | fuel + 1 => do
    let c ← get
    if c.column != indent || c.peek == endMark then return ([], [], breaks)
    let spaced := c.peek == ' ' || c.peek == '\t'
    let line ← takeWhile (!isBreakOrEnd ·)
    let last ← lineBreak
    let more ← blockBreaks indent ((← get).rest.length + 1)
    let c ← get
    if c.column == indent && c.peek != endMark then
      let nextSpaced := c.peek == ' ' || c.peek == '\t'
      let joint :=
        if folded && last == ['\n'] && !spaced && !nextSpaced then
          if more.isEmpty then [' '] else []
        else last
      let (text, tail) ← blockLines folded indent more fuel
      return (breaks ++ line ++ joint ++ text, tail)
    else return (breaks ++ line, last, more)

/-- A block scalar inside a collection with an indentation; minus one stands for none. -/
def block (folded : Bool) (outer : Int) : Reader String := do
  skip
  let (chomping, given) ← blockHeader
  let least := max 1 (outer + 1).toNat
  let fuel := (← get).rest.length + 1
  let (breaks, indent) ← match given with
    | some n => do
      let indent := least + n - 1
      pure (← blockBreaks indent fuel, indent)
    | none => do
      let (breaks, widest) ← blockIndent 0 fuel
      pure (breaks, max least widest)
  let (text, last, more) ← blockLines folded indent breaks fuel
  return String.ofList (text ++ match chomping with
    | .strip => []
    | .clip => last
    | .keep => last ++ more)

end ArchModel.Yaml.Reader
