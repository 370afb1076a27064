import ArchModel.Source.Grammar.Reading
import ArchModel.Source.Piece
import ArchModel.Text.Utf8

/-!
# Reading a source file

* `Stmt.ofText` reads a file: its statements, or what makes it no source file.
* `Expr.ofText` reads a text that stands for an expression.
-/

namespace ArchModel.Source

open Grammar

/-- A number of steps that reading a text of a length does not use up: a step goes into a rule or
passes a form or a part of one, and the rules within one another are limited. -/
def stepsFor (length : Nat) : Nat := 64 * maxLevel + 16 * length

/-- The greatest depth of a text that is looked into. -/
def maxDepth : Nat := 2970

/-- The node that a row of tokens is by a rule, for a text of a length. -/
def nodeOf (tokens : List Token) (r : Rule) (length : Nat) : Except SourceFault Node := do
  let n ← readTokens tokens.toArray r (stepsFor length)
  if maxDepth < n.depth then throw ⟨.tooNested, 0⟩
  return n

/-- The statements of a file. A text with the null character is never looked into. -/
def Stmt.ofText (text : String) : Except SourceFault (List Stmt) :=
  let cs := Text.unifyLineBreaks text.toList
  if cs.contains '\x00' then .error ⟨.nullCharacter, 0⟩
  else (nodeOf (Token.ofSource cs) .file cs.length).map Stmt.ofNode

/-- The expression that a text stands for. A text with a surrogate or the null character is never
looked into. -/
def Expr.ofText (text : String) : Except SourceFault Expr :=
  let cs := Text.unifyLineBreaks text.toList
  if cs.any Text.isSurrogate then .error ⟨.surrogate, 0⟩
  else if cs.contains '\x00' then .error ⟨.nullCharacter, 0⟩
  else (nodeOf (Token.ofExpression cs) .soleExpression cs.length).map Expr.ofNode

end ArchModel.Source
