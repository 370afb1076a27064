/-!
# Tokens of a source file

A source file is a row of tokens. Beside names, numbers, texts and operators there are tokens for
the end of a logical line and for the start and end of an indented block.

* `SourceFault` is what makes a text no source file. The faults of block structure are of a kind of
  their own.
* A row of tokens ends in `TokenKind.finish`, or in `TokenKind.bad` where the text cannot be
  divided any further.
-/

namespace ArchModel.Source

/-- A place in a source file. -/
structure Position where
  /-- The line, counted from one. -/
  line : Nat
  /-- The number of bytes before the place in its line, in UTF-8. -/
  column : Nat
  deriving DecidableEq, Repr, Inhabited

/-- The order of places. -/
def Position.le (a b : Position) : Bool :=
  a.line < b.line || (a.line == b.line && a.column ≤ b.column)

/-- What can be wrong with a source file. -/
inductive FaultCause
  | invalidSyntax
  | neverClosed (bracket : Char)
  | unmatched (bracket : Char)
  | unterminatedText
  | badCharacter (c : Char)
  | badNumber
  | longNumber
  | afterContinuation
  | endedEarly
  | badEscape
  | mixedTexts
  | wideByte
  | formatText
  | tooDeep
  | tooComplex
  | tooNested
  | expected (sign : String)
  | missingComma
  | missingElse
  | missingCall
  | badTarget
  | equalsForTest
  | equalsInCall
  | manyTargets
  | bareTarget
  | bareGenerator
  | argumentOrder
  | unpackingOrder
  | starredHere
  | starredValue
  | missingColon
  | missingValue
  | missingDefault
  | defaultOrder
  | defaultOfRest
  | bracketedParams
  | slashPlace
  | bareStar
  | starTwice
  | afterRest
  | trailingComma
  | missingHandler
  | mixedHandlers
  | bareTypes
  | missingTypes
  | patternOrder
  | realExpected
  | imaginaryExpected
  | unexpectedIndent
  | unexpectedUnindent
  | blockExpected
  | unmatchedIndent
  | mixedTabs
  | tooManyIndents
  | nullCharacter
  | surrogate
  deriving DecidableEq, Repr

namespace FaultCause

/-- The wording of a cause. -/
def message : FaultCause → String
  | invalidSyntax => "invalid syntax"
  | neverClosed c => "'" ++ String.singleton c ++ "' was never closed"
  | unmatched c => "unmatched '" ++ String.singleton c ++ "'"
  | unterminatedText => "unterminated string literal"
  | badCharacter c => "invalid character '" ++ String.singleton c ++ "'"
  | badNumber => "invalid number literal"
  | longNumber => "too many digits for an integer"
  | afterContinuation => "unexpected character after line continuation character"
  | endedEarly => "unexpected end of file"
  | badEscape => "malformed escape in a string literal"
  | mixedTexts => "cannot mix bytes and nonbytes literals"
  | wideByte => "bytes can only contain ASCII literal characters"
  | formatText => "malformed formatted string literal"
  | tooDeep => "too many nested parentheses"
  | tooComplex => "too complex"
  | tooNested => "too deeply nested"
  | expected s => "expected '" ++ s ++ "'"
  | missingComma => "invalid syntax. Perhaps you forgot a comma?"
  | missingElse => "expected 'else' after 'if' expression"
  | missingCall => "missing parentheses in a call"
  | badTarget => "cannot assign to this expression"
  | equalsForTest => "invalid syntax. Maybe you meant '==' or ':=' instead of '='?"
  | equalsInCall => "expression cannot contain assignment, perhaps you meant '=='?"
  | manyTargets => "only a single target can be annotated"
  | bareTarget => "did you forget parentheses around the comprehension target?"
  | bareGenerator => "generator expression must be parenthesized"
  | argumentOrder => "positional argument follows keyword argument"
  | unpackingOrder => "iterable argument unpacking follows keyword argument unpacking"
  | starredHere => "cannot use starred expression here"
  | starredValue => "cannot use a starred expression in a dictionary value"
  | missingColon => "':' expected after dictionary key"
  | missingValue => "expression expected after dictionary key and ':'"
  | missingDefault => "expected default value expression"
  | defaultOrder => "non-default argument follows default argument"
  | defaultOfRest => "an argument that takes the rest cannot have a default value"
  | bracketedParams => "parameters cannot be parenthesized"
  | slashPlace => "/ is misplaced among the parameters"
  | bareStar => "named arguments must follow bare *"
  | starTwice => "* argument may appear only once"
  | afterRest => "arguments cannot follow var-keyword argument"
  | trailingComma => "trailing comma not allowed without surrounding parentheses"
  | missingHandler => "expected 'except' or 'finally' block"
  | mixedHandlers => "cannot have both 'except' and 'except*' on the same 'try'"
  | bareTypes => "multiple exception types must be parenthesized"
  | missingTypes => "expected one or more exception types"
  | patternOrder => "positional patterns follow keyword patterns"
  | realExpected => "real number required in complex literal"
  | imaginaryExpected => "imaginary number required in complex literal"
  | unexpectedIndent => "unexpected indent"
  | unexpectedUnindent => "unexpected unindent"
  | blockExpected => "expected an indented block"
  | unmatchedIndent => "unindent does not match any outer indentation level"
  | mixedTabs => "inconsistent use of tabs and spaces in indentation"
  | tooManyIndents => "too many levels of indentation"
  | nullCharacter => "source text cannot contain null characters"
  | surrogate => "surrogates not allowed"

/-- Whether a cause is one of block structure. -/
def isIndentation : FaultCause → Bool
  | unexpectedIndent | unexpectedUnindent | blockExpected | unmatchedIndent | tooManyIndents => true
  | _ => false

/-- The word for the kind of a cause. -/
def kind (c : FaultCause) : String :=
  match c with
  | mixedTabs => "TabError"
  | tooComplex => "MemoryError"
  | tooNested => "RecursionError"
  | nullCharacter => "ValueError"
  | surrogate => "UnicodeEncodeError"
  | _ => if c.isIndentation then "IndentationError" else "SyntaxError"

/-- Whether a cause stops the work that asked for the text, instead of making it no source text. -/
def isFatal : FaultCause → Bool
  | tooComplex | tooNested | nullCharacter | surrogate => true
  | _ => false

end FaultCause

/-- A fault and its line. -/
structure SourceFault where
  cause : FaultCause
  line : Nat
  deriving DecidableEq, Repr

namespace SourceFault

/-- The wording of a fault. -/
def message (f : SourceFault) : String := f.cause.message

/-- The word for the kind of a fault. -/
def kind (f : SourceFault) : String := f.cause.kind

end SourceFault

/-- A text as it is written, without its quotes. -/
structure WrittenText where
  /-- Whether backslashes stand for themselves. -/
  raw : Bool
  /-- Whether it stands for bytes. -/
  bytes : Bool
  /-- Whether it holds expressions in braces. -/
  format : Bool
  /-- What stands between the quotes. -/
  body : List Char
  /-- The place of the first character between the quotes. -/
  start : Position
  deriving DecidableEq, Repr, Inhabited

/-- The point at which a text cannot be divided into tokens any further. -/
structure LexicalFault where
  /-- What is wrong. -/
  fault : SourceFault
  /-- Whether the fault also shows when a fault of grammar comes before it. -/
  prevails : Bool
  /-- The innermost bracket that is open there, with its line. -/
  bracket : Option (Char × Nat)
  deriving DecidableEq, Repr

/-- What a token is. -/
inductive TokenKind
  | name (s : String)
  /-- A number as it is written. -/
  | number (written : String)
  | text (t : WrittenText)
  /-- An operator, a bracket or a reserved word. -/
  | sign (s : String)
  | newline
  | indent
  | dedent
  | finish
  | bad (f : LexicalFault)
  deriving DecidableEq, Repr, Inhabited

/-- A token with its place. -/
structure Token where
  kind : TokenKind
  place : Position
  /-- The number of brackets that are open behind the token. -/
  depth : Nat
  deriving Repr, Inhabited

end ArchModel.Source
