import ArchModel.Source.Token
import ArchModel.Text.Char

/-!
# Dividing a source file into tokens

`Token.ofSource` divides a text. Between brackets line breaks count as blanks; elsewhere a line
break ends a logical line, and the indentation of the next line that is not blank opens a block or
closes some. `Token.ofExpression` divides a text that stands for an expression; its last line need
not be ended.
-/

namespace ArchModel.Source

open Text

/-- The state of dividing a text. -/
structure Lexer where
  /-- The characters to come. -/
  rest : List Char
  /-- The line reached, counted from one. -/
  line : Nat := 1
  /-- The number of bytes passed in it. -/
  column : Nat := 0
  /-- The brackets that are open, innermost first, with their lines. -/
  brackets : List (Char × Nat) := []
  /-- The indentations that are open, innermost first: the width with tabs to the next multiple of
  eight, and with tabs of width one. -/
  indents : List (Nat × Nat) := []
  /-- The tokens so far. -/
  tokens : Array Token := #[]
  /-- Whether some line was passed. -/
  lineStarted : Bool := true
  /-- Whether the next character is the first of its line. -/
  atLineStart : Bool := true
  /-- Whether the end was reached. -/
  done : Bool := false

namespace Lexer

/-- The place reached. -/
def place (l : Lexer) : Position := ⟨l.line, l.column⟩

/-- Pass some characters. -/
def skip : Nat → Lexer → Lexer
  | 0, l => l
  | n + 1, l =>
    match l.rest with
    | [] => l
    | '\n' :: rest => skip n { l with rest, line := l.line + 1, column := 0 }
    | c :: rest => skip n { l with rest, column := l.column + c.utf8Size }

/-- Add a token that stands at a place. -/
def emit (l : Lexer) (kind : TokenKind) (place : Position) : Lexer :=
  { l with tokens := l.tokens.push ⟨kind, place, l.brackets.length⟩ }

/-- The number of the last line that holds a character. -/
def lastLine (l : Lexer) : Nat :=
  if l.rest.isEmpty && l.column == 0 && 1 < l.line then l.line - 1 else l.line

/-- Stop at a fault. -/
def stop (l : Lexer) (cause : FaultCause) (prevails : Bool := true) (line : Nat := l.lastLine) :
    Lexer :=
  { l with
    done := true
    tokens := l.tokens.push
      ⟨.bad ⟨⟨cause, line⟩, prevails, l.brackets.head?⟩, ⟨line, l.column⟩, l.brackets.length⟩ }

/-- Stop at the end of the text where something has to follow. An open bracket counts first. -/
def stopAtEnd (l : Lexer) : Lexer :=
  match l.brackets with
  | (c, line) :: _ => l.stop (.neverClosed c) false line
  | [] => l.stop .endedEarly false

/-! ## Indentation -/

/-- Pass the blanks at the start of a line and measure them, with tabs to the next multiple of
eight and with tabs of width one. A form feed starts anew. A backslash at the end of the line goes
on with the next line, whose blanks say nothing. -/
def indentation (l : Lexer) (width narrow : Nat) (fixed : Option Nat) :
    Nat → Except Lexer (Lexer × Nat × Nat)
  | 0 => .ok (l, width, narrow)
  | fuel + 1 =>
    match l.rest with
    | ' ' :: _ => indentation (l.skip 1) (width + 1) (narrow + 1) fixed fuel
    | '\t' :: _ => indentation (l.skip 1) ((width / 8 + 1) * 8) (narrow + 1) fixed fuel
    | '\x0c' :: _ => indentation (l.skip 1) 0 0 fixed fuel
    | '\\' :: '\n' :: rest =>
      if rest.isEmpty then .error ((l.skip 2).stopAtEnd)
      else
        let first := match fixed with
          | some w => some w
          | none => if width = 0 then none else some width
        indentation (l.skip 2) width narrow first fuel
    | '\\' :: _ => .error (l.stop .afterContinuation false)
    | _ => match fixed with
      | some w => .ok (l, w, w)
      | none => .ok (l, width, narrow)

/-- Close the blocks that are indented more than a width. -/
def closeBlocks (l : Lexer) (width : Nat) : List (Nat × Nat) → Lexer
  | [] => { l with indents := [] }
  | (w, n) :: outer =>
    if width < w then closeBlocks (l.emit .dedent l.place) width outer
    else { l with indents := (w, n) :: outer }

/-- Open or close blocks according to the indentation of a line. -/
def setIndent (l : Lexer) (width narrow : Nat) : Lexer :=
  let (top, topNarrow) := l.indents.headD (0, 0)
  if width = top then
    if narrow = topNarrow then l else l.stop .mixedTabs false
  else if top < width then
    if 99 ≤ l.indents.length then l.stop .tooManyIndents false
    else if narrow ≤ topNarrow then l.stop .mixedTabs false
    else ({ l with indents := (width, narrow) :: l.indents }).emit .indent l.place
  else
    let closed := l.closeBlocks width l.indents
    let (w, n) := closed.indents.headD (0, 0)
    if w ≠ width then { l with indents := closed.indents }.stop .unmatchedIndent false
    else if n ≠ narrow then { l with indents := closed.indents }.stop .mixedTabs false
    else closed

/-- Read the start of a line. A line of blanks or a comment alone says nothing. -/
def startLine (l : Lexer) : Lexer :=
  let l := { l with atLineStart := false }
  match l.indentation 0 0 none (l.rest.length + 1) with
  | .error stopped => stopped
  | .ok (l, width, narrow) =>
    match l.rest with
    | '#' :: _ | '\n' :: _ =>
      let comment := l.rest.takeWhile (· ≠ '\n')
      let l := l.skip comment.length
      if l.rest.isEmpty then l else { l.skip 1 with atLineStart := true }
    | _ => if l.brackets.isEmpty then l.setIndent width narrow else l

/-! ## Numbers -/

/-- What is left after a run of digits in which single underscores stand between digits; nothing if
an underscore stands elsewhere. -/
def digitsRest? (isDigit : Char → Bool) : List Char → Option (List Char)
  | [] => some []
  | ['_'] => none
  | '_' :: c :: cs => if isDigit c then digitsRest? isDigit (c :: cs) else none
  | c :: cs => if isDigit c then digitsRest? isDigit cs else some (c :: cs)

/-- Whether what follows a number may follow one: no name, except the start of some keywords. -/
def endsNumber (cs : List Char) : Bool :=
  match cs with
  | [] => true
  | c :: _ =>
    !(c.isAlphanum || c == '_' || 128 ≤ c.toNat) ||
      ["and", "else", "for", "if", "in", "is", "or", "not"].any fun w => w.toList.isPrefixOf cs

/-- What is left after an exponent, if there is one. A letter for an exponent that has no digits
belongs to what follows, unless it has a sign. -/
def powerRest? (cs : List Char) : Option (List Char) :=
  match cs with
  | e :: r =>
    if e = 'e' ∨ e = 'E' then
      match r with
      | s :: ds =>
        if s.isDigit then digitsRest? Char.isDigit r
        else if s = '+' ∨ s = '-' then
          if (ds.headD ' ').isDigit then digitsRest? Char.isDigit ds else none
        else some cs
      | [] => some cs
    else some cs
  | [] => some cs

/-- What is left after the exponent of a number and the sign of the imaginary unit. -/
def exponentRest? (cs : List Char) : Option (List Char) := do
  let rest ← powerRest? cs
  let rest := match rest with
    | 'j' :: r | 'J' :: r => r
    | r => r
  if endsNumber rest then some rest else none

/-- What is left after the fraction of a number. -/
def fractionRest? (cs : List Char) : Option (List Char) := do
  match cs with
  | c :: _ => if c.isDigit then exponentRest? (← digitsRest? Char.isDigit cs) else exponentRest? cs
  | [] => some []

/-- What is left after the digits of a number with a base of its own; the letter of the base was
passed. -/
def basedRest? (isDigit : Char → Bool) (cs : List Char) : Option (List Char) := do
  let cs := match cs with
    | '_' :: r => r
    | r => r
  match cs with
  | c :: _ =>
    if isDigit c then
      let rest ← digitsRest? isDigit cs
      if (rest.headD ' ').isDigit then none
      else if endsNumber rest then some rest else none
    else none
  | [] => none

/-- What is left after a number. A number with a leading zero has other digits than zero only in a
fraction or before the imaginary unit. -/
def numberRest? (cs : List Char) : Option (List Char) := do
  match cs with
  | '.' :: cs => fractionRest? cs
  | '0' :: 'x' :: cs | '0' :: 'X' :: cs => basedRest? (fun c => (hexDigit? c).isSome) cs
  | '0' :: 'o' :: cs | '0' :: 'O' :: cs => basedRest? (fun c => '0' ≤ c && c ≤ '7') cs
  | '0' :: 'b' :: cs | '0' :: 'B' :: cs => basedRest? (fun c => c == '0' || c == '1') cs
  | _ =>
    let rest ← digitsRest? Char.isDigit cs
    match rest with
    | '.' :: r => fractionRest? r
    | _ =>
      let whole := cs.take (cs.length - rest.length)
      let plain := !(["e", "E", "j", "J"].any fun w => w.toList.isPrefixOf rest)
      if whole.head? = some '0' ∧ whole.any (fun c => c ≠ '0' ∧ c ≠ '_') ∧ plain then none
      else exponentRest? rest

/-! ## Names, texts and operators -/

/-- The reserved words. -/
def reserved : List String :=
  ["False", "None", "True", "and", "as", "assert", "async", "await", "break", "class", "continue",
    "def", "del", "elif", "else", "except", "finally", "for", "from", "global", "if", "import",
    "in", "is", "lambda", "nonlocal", "not", "or", "pass", "raise", "return", "try", "while",
    "with", "yield"]

/-- A name or a reserved word; a character that no name holds is a fault. -/
def readName (l : Lexer) : Lexer :=
  let cs := l.rest.takeWhile fun c => c.isAlphanum || c == '_' || 128 ≤ c.toNat
  let bad := match cs with
    | c :: cs => if isNameStart c then cs.find? (!isNameContinue ·) else some c
    | [] => none
  match bad with
  | some c => l.stop (.badCharacter c)
  | none =>
    let word := String.ofList cs
    (l.emit (if reserved.contains word then .sign word else .name word) l.place).skip cs.length

/-- A number with a given count of characters. -/
def readNumber (l : Lexer) (count : Nat) : Lexer :=
  (l.emit (.number (String.ofList (l.rest.take count))) l.place).skip count

/-- The characters up to the closing quotes and the number of characters with them. -/
def textBody (quote : Char) (triple : Bool) : List Char → Option (List Char × Nat)
  | [] => none
  | '\\' :: c :: cs => (textBody quote triple cs).map fun (b, n) => ('\\' :: c :: b, n + 2)
  | c :: cs =>
    if c = quote ∧ (!triple ∨ [quote, quote].isPrefixOf cs) then some ([], if triple then 3 else 1)
    else if c = '\n' ∧ !triple then none
    else (textBody quote triple cs).map fun (b, n) => (c :: b, n + 1)

/-- A text after its letters, which were `width` characters. -/
def readText (l : Lexer) (letters : List Char) (quote : Char) : Lexer :=
  let place := l.place
  let after := l.skip letters.length
  let triple := [quote, quote, quote].isPrefixOf after.rest
  let start := after.skip (if triple then 3 else 1)
  match textBody quote triple start.rest with
  | none => l.stop .unterminatedText true l.line
  | some (body, count) =>
    let has := fun c : Char => letters.any fun d => d.toLower == c
    let kind := TokenKind.text
      { raw := has 'r', bytes := has 'b', format := has 'f', body, start := start.place }
    (start.emit kind place).skip count

/-- The letters that may stand in front of a quote, if a quote follows them. -/
def textLetters? (cs : List Char) : Option (List Char × Char) :=
  let letters := (cs.take 3).takeWhile Char.isAlpha
  match cs.drop letters.length with
  | q :: _ =>
    if (q = '"' ∨ q = '\'') ∧
        ["", "b", "u", "r", "f", "br", "rb", "fr", "rf"].contains
          (String.ofList (letters.map Char.toLower)) then some (letters, q)
    else none
  | [] => none

/-- The operators, longer ones first. -/
def operators : List String :=
  ["**=", "//=", ">>=", "<<=", "...", "!=", "%=", "&=", "**", "*=", "+=", "-=", "->", "//", "/=",
    ":=", "<<", "<=", "<>", "==", ">=", ">>", "@=", "^=", "|="]

/-- The closing bracket that belongs to an opening one. -/
def closing (c : Char) : Char := if c = '(' then ')' else if c = '[' then ']' else '\x7d'

/-- An operator or a bracket. -/
def readOperator (l : Lexer) (c : Char) : Lexer :=
  if c = '(' ∨ c = '[' ∨ c = '\x7b' then
    if 200 ≤ l.brackets.length then l.stop .tooDeep
    else
      let l' := { l with brackets := (c, l.line) :: l.brackets }
      (l'.emit (.sign (String.singleton c)) l.place).skip 1
  else if c = ')' ∨ c = ']' ∨ c = '\x7d' then
    match l.brackets with
    | [] => l.stop (.unmatched c)
    | (o, _) :: outer =>
      if closing o = c then
        (({ l with brackets := outer }).emit (.sign (String.singleton c)) l.place).skip 1
      else ({ l with brackets := outer }).stop (.unmatched c)
  else
    match operators.find? fun o => o.toList.isPrefixOf l.rest with
    | some o => (l.emit (.sign o) l.place).skip o.length
    | none =>
      if isPrintable c then (l.emit (.sign (String.singleton c)) l.place).skip 1
      else l.stop (.badCharacter c)

/-! ## The whole row -/

/-- The end of the text. -/
def finish (l : Lexer) : Lexer :=
  match l.brackets with
  | (c, line) :: _ => l.stop (.neverClosed c) false line
  | [] =>
    let place : Position := ⟨l.lastLine, l.column⟩
    let closed := l.indents.foldl (fun l _ => l.emit .dedent place) l
    { closed.emit .finish place with done := true }

/-- Read one token, or the start of a line, or blanks. -/
def step (l : Lexer) : Lexer :=
  if l.atLineStart && !l.rest.isEmpty then l.startLine
  else
    match l.rest with
    | [] => l.finish
    | c :: cs =>
      if c = ' ' ∨ c = '\t' ∨ c = '\x0c' then l.skip 1
      else if c = '#' then l.skip (l.rest.takeWhile (· ≠ '\n')).length
      else if c = '\n' then
        let l' := { l.skip 1 with atLineStart := true }
        if l.brackets.isEmpty then { l' with tokens := (l.emit .newline l.place).tokens } else l'
      else if c = '\\' then
        match cs with
        | '\n' :: rest => if rest.isEmpty then (l.skip 2).stopAtEnd else l.skip 2
        | _ => l.stop .afterContinuation false
      else match textLetters? l.rest with
        | some (letters, quote) => l.readText letters quote
        | none =>
          if c.isAlpha || c == '_' || 128 ≤ c.toNat then l.readName
          else if c.isDigit || (c == '.' && (cs.headD ' ').isDigit) then
            match numberRest? l.rest with
            | some rest => l.readNumber (l.rest.length - rest.length)
            | none => l.stop .badNumber
          else l.readOperator c

/-- Read tokens up to the end. Each step passes a character or comes to the end. -/
def run : Nat → Lexer → Lexer
  | 0, l => l
  | fuel + 1, l => if l.done then l else run fuel l.step

end Lexer

/-- The tokens of a text that stands for an expression. -/
def Token.ofExpression (cs : List Char) : List Token :=
  (Lexer.run (2 * cs.length + 2) { rest := cs }).tokens.toList

/-- The tokens of a source file. The last line counts as ended. -/
def Token.ofSource (cs : List Char) : List Token :=
  ofExpression (if cs.getLast? = some '\n' then cs else cs ++ ['\n'])

end ArchModel.Source
