import ArchModel.Source.Lexer
import ArchModel.Source.Literal
import ArchModel.Source.Node

/-!
# Formatted texts

A formatted text holds expressions in braces. `formatParts` reads the expressions of one text, given
how one expression is read; `textNode` makes one node of texts that stand one after the other.
-/

namespace ArchModel.Source

/-- Characters with their places. -/
abbrev Placed := List (Char × Position)

/-- Characters with their places, the first one being at a given place. -/
def placed (start : Position) : List Char → Placed
  | [] => []
  | c :: cs =>
    let next : Position :=
      if c = '\n' then ⟨start.line + 1, 0⟩ else ⟨start.line, start.column + c.utf8Size⟩
    (c, start) :: placed next cs

/-- The literal characters at the front of a formatted text, and what follows: the end, or a brace
that stands for itself alone. Doubled braces count as literal outside of format specifications. -/
def formatLiteral (raw nested : Bool) : Nat → Placed → List Char × Placed
  | 0, cs => ([], cs)
  | _ + 1, [] => ([], [])
  | fuel + 1, (c, p) :: cs =>
    let go := fun (taken : List Char) (rest : Placed) =>
      let (more, rest) := formatLiteral raw nested fuel rest
      (taken ++ more, rest)
    if c = '\\' ∧ !raw then
      match cs with
      | ('N', _) :: ('\x7b', _) :: rest =>
        let name := rest.takeWhile fun (d, _) => d ≠ '\x7d'
        go ('\\' :: 'N' :: '\x7b' :: (name.map (·.1) ++ ['\x7d'])) (rest.drop (name.length + 1))
      | (d, q) :: rest =>
        if d = '\x7b' ∨ d = '\x7d' then go ['\\'] ((d, q) :: rest) else go ['\\', d] rest
      | [] => (['\\'], [])
    else if c = '\x7b' ∨ c = '\x7d' then
      match cs with
      | (d, _) :: rest => if d = c ∧ !nested then go [c] rest else ([], (c, p) :: cs)
      | [] => ([], [(c, p)])
    else go [c] cs

/-- The state of looking for the end of an expression in braces. -/
structure FormatScan where
  /-- The quotes of the text that is open, if there is one. -/
  quotes : List Char := []
  /-- The brackets that are open, innermost first. -/
  brackets : List Char := []

/-- The characters of an expression in braces and what follows. It ends outside of brackets and
texts at an exclamation mark, a colon, an equals sign or the closing brace, if these are no
operators. -/
def formatExpression (s : FormatScan) : Nat → Placed → Option (Placed × Placed)
  | 0, _ => none
  | _ + 1, [] => if s.quotes.isEmpty && s.brackets.isEmpty then some ([], []) else none
  | fuel + 1, (c, p) :: cs =>
    let go := fun (s : FormatScan) (count : Nat) =>
      (formatExpression s fuel (cs.drop count)).map fun (e, rest) =>
        ((c, p) :: (cs.take count ++ e), rest)
    let next := (cs.head?.map (·.1)).getD ' '
    if c = '\\' then none
    else if !s.quotes.isEmpty then
      if s.quotes.isPrefixOf (c :: (cs.take 2).map (·.1)) then
        go { s with quotes := [] } (s.quotes.length - 1)
      else go s 0
    else if c = '\'' ∨ c = '"' then
      if [c, c].isPrefixOf ((cs.take 2).map (·.1)) then go { s with quotes := [c, c, c] } 2
      else go { s with quotes := [c] } 0
    else if c = '(' ∨ c = '[' ∨ c = '\x7b' then go { s with brackets := c :: s.brackets } 0
    else if c = '#' then none
    else if s.brackets.isEmpty ∧ ['!', ':', '\x7d', '=', '>', '<'].contains c then
      if ['!', '=', '<', '>'].contains c ∧ next = '=' then go s 1
      else if c = '>' ∨ c = '<' then go s 0
      else some ([], (c, p) :: cs)
    else if c = ')' ∨ c = ']' ∨ c = '\x7d' then
      match s.brackets with
      | o :: outer => if Lexer.closing o = c then go { s with brackets := outer } 0 else none
      | [] => none
    else go s 0

/-- Whether a character is a blank in front of the end of an expression in braces. -/
def isFormatBlank (c : Char) : Bool :=
  c == ' ' || c == '\t' || c == '\n' || c == '\x0c' || c == '\r'

/-- How the tokens of an expression in braces are read. -/
abbrev ValueReader := List Token → Except SourceFault Node

/-- Read an expression that stands in braces, as if it stood in brackets. A fault that has no line
of its own is at `line`. -/
def formatValue (value : ValueReader) (line : Nat) (place : Position) (cs : Placed) :
    Except SourceFault Node :=
  let text := cs.map (·.1)
  if text.all isFormatBlank then .error ⟨.formatText, line⟩
  else
    let start : Lexer :=
      { rest := '(' :: (text ++ [')']), line := place.line, column := place.column
        atLineStart := false }
    value (Lexer.run (2 * text.length + 6) start).tokens.toList

/-- The expressions in a formatted text, and what follows; a format specification goes up to its
closing brace, and one may hold expressions of its own. -/
def formatParts (value : ValueReader) (t : WrittenText) (line : Nat) (level : Nat) :
    Nat → Placed → Except SourceFault (List Node × Placed)
  | 0, _ => .error ⟨.formatText, line⟩
  | fuel + 1, cs => do
    let bad : Except SourceFault (List Node × Placed) := .error ⟨.formatText, line⟩
    let (literal, rest) := formatLiteral t.raw (level != 0) (cs.length + 1) cs
    if (t.decodePiece literal).isNone then .error ⟨.badEscape, line⟩
    match rest with
    | [] => return ([], [])
    | (brace, place) :: rest =>
      if brace = '\x7d' then
        if level = 0 then bad else return ([], (brace, place) :: rest)
      else if 2 ≤ level then bad
      else
        match formatExpression {} (rest.length + 1) rest with
        | none | some (_, []) => bad
        | some (expr, rest) =>
          let e ← formatValue value line place expr
          let rest := match rest with
            | ('=', _) :: r => r.dropWhile fun (c, _) => isFormatBlank c
            | r => r
          let rest ← match rest with
            | ('!', _) :: (c, _) :: r =>
              if c = 's' ∨ c = 'r' ∨ c = 'a' then pure r else .error ⟨.formatText, line⟩
            | r => pure r
          let (inner, rest) ← match rest with
            | (':', _) :: r => formatParts value t line (level + 1) fuel r
            | r => pure ([], r)
          match rest with
          | ('\x7d', _) :: rest =>
            let (more, rest) ← formatParts value t line level fuel rest
            return (e :: (inner ++ more), rest)
          | _ => bad

/-- What one text is: characters, or expressions in braces. -/
def textPart (line : Nat) (t : WrittenText) (own : Nat) : Except SourceFault (List Char) :=
  if t.format then .ok []
  else match t.decode with
    | .ok cs => .ok cs
    | .error .wideByte => .error ⟨.wideByte, own⟩
    | .error cause => .error ⟨cause, line⟩

/-- The node of texts that stand one after the other and start at a place. All of them are of
characters, or all of them of bytes; `line` is that of the furthest token. -/
def textNode (value : ValueReader) (line : Nat) (place : Position)
    (texts : List (WrittenText × Nat)) : Except SourceFault Node := do
  let isBytes := texts.head?.any (·.1.bytes)
  let plain ← texts.mapM fun (t, own) => do
    let cs ← textPart line t own
    if t.bytes != isBytes then .error ⟨.mixedTexts, line⟩
    return cs
  if texts.any (·.1.format) then
    let parts ← texts.mapM fun (t, _) =>
      if t.format then (·.1) <$> formatParts value t line 0 (t.body.length + 1) (placed t.start t.body)
      else .ok []
    return .format place parts.flatten
  else if isBytes then return .text place none
  else return .text place (some (String.ofList plain.flatten))

end ArchModel.Source
