import ArchModel.Source.Grammar.Rules
import ArchModel.Source.Node

/-!
# Wrong uses of the grammar

`wrongForms` gives each misuse the wrong forms that it knows, in the order in which they are
tried. A wrong form comes with its cause and with a function that finds its line; where the
function finds none, the form is no fault after all.
-/

namespace ArchModel.Source.Grammar

open Rule
open Form (anyOf maybe)

/-- What was read in a wrong form. -/
structure Seen where
  /-- The nodes of its parts. -/
  parts : List Node
  /-- The line of the furthest token that was looked at. -/
  reached : Nat
  /-- The number of brackets that are open behind it. -/
  depth : Nat

namespace Seen

/-- The node of a part. -/
def part (i : Nat) (s : Seen) : Node := s.parts.getD i default

/-- The fault is at the furthest token. -/
def atReached (s : Seen) : Option Nat := some s.reached

/-- The fault is at the start of a part. -/
def atPart (i : Nat) (s : Seen) : Option Nat := some (s.part i).line

/-- The fault is at what cannot be a target in a part. -/
def atTarget (use : Node.TargetUse) (i : Nat) (s : Seen) : Option Nat :=
  ((s.part i).unassignable? use).map Node.line

/-- Whether a part is one of the words that began statements once. -/
def isOldWord (i : Nat) (s : Seen) : Bool :=
  match (s.part i).name? with
  | some w => w == "print" || w == "exec"
  | none => false

/-- Two operands without a comma between them are a fault in brackets alone. -/
def atOperands (s : Seen) : Option Nat :=
  if s.isOldWord 0 || s.depth = 0 then none else some (s.part 0).line

/-- An old word in front of an expression is a fault. -/
def atOldWord (s : Seen) : Option Nat := if s.isOldWord 0 then some (s.part 0).line else none

/-- A generator without brackets is a fault behind other arguments, at the last of these. -/
def atLastArgument (s : Seen) : Option Nat :=
  match (s.part 0).arguments.filter Node.isPositional with
  | [] | [_] => none
  | ns => ns.getLast?.map Node.line

/-- The first pattern by position behind patterns by name. -/
def atLatePattern (s : Seen) : Option Nat :=
  match s.part 2 with
  | .branch .mixedPatterns _ parts => parts.getLast?.map Node.line
  | n => some n.line

end Seen

open Seen

/-- A wrong form. -/
structure WrongForm where
  parts : List Form
  cause : FaultCause
  /-- The line of the fault, if the form is one. -/
  line : Seen → Option Nat

/-- The head of a compound statement whose block is missing. -/
def WrongForm.noBlock (parts : List Form) : WrongForm :=
  ⟨parts ++ [.sign ":", .lexeme .newline, .notAhead (.lexeme .indent)], .blockExpected, atReached⟩

/-- The head of a compound statement that ends without a colon. -/
def WrongForm.noColon (parts : List Form) : WrongForm :=
  ⟨parts ++ [.lexeme .newline], .expected ":", atReached⟩

open WrongForm

/-- The wrong forms of a misuse. -/
def wrongForms : Misuse → List WrongForm
  | .arguments => [
      ⟨[args, ",", "*"], .unpackingOrder, atPart 0⟩,
      ⟨[expression, clauses, ",", .opt (.oneOf [[args], [expression, clauses]])], .bareGenerator,
        atPart 0⟩,
      ⟨[Lexeme.name, "=", expression, clauses], .equalsForTest, atPart 0⟩,
      ⟨[args, clauses], .bareGenerator, atLastArgument⟩,
      ⟨[args, ",", expression, clauses], .bareGenerator, atPart 2⟩,
      ⟨[args, ",", args], .argumentOrder, atReached⟩]
  | .namedArgument => [
      ⟨[anyOf ["True", "False", "None"], "="], .badTarget, atPart 0⟩,
      ⟨[Lexeme.name, "=", expression, clauses], .equalsForTest, atPart 0⟩,
      ⟨[.notAhead (.oneOf [[Lexeme.name, "="]]), expression, "="], .equalsInCall, atPart 0⟩]
  | .expression => [
      ⟨[.notAhead (.oneOf [[Lexeme.name, Lexeme.text], [Lexeme.softWord]]), disjunction,
        plainExpression], .missingComma, atOperands⟩,
      ⟨[disjunction, "if", disjunction, .notAhead (anyOf ["else", ":"])], .missingElse, atPart 0⟩]
  | .wordStatement => [
      ⟨[Lexeme.name, .notAhead "(", starExpressions], .missingCall, atOldWord⟩]
  | .named => [
      ⟨[expression, ":=", expression], .badTarget, atPart 0⟩,
      ⟨[Lexeme.name, "=", bitOr, .notAhead (anyOf ["=", ":="])], .equalsForTest, atPart 0⟩,
      ⟨[.notAhead (anyOf [listDisplay, tupleDisplay, generator, "True", "None", "False"]), bitOr,
        "=", bitOr, .notAhead (anyOf ["=", ":="])], .badTarget, atPart 0⟩]
  | .assignment => [
      ⟨[bracketedTarget, ":", expression], .manyTargets, atPart 0⟩,
      ⟨[starNamed, ",", .many starNamedList, ":", expression], .manyTargets, atPart 0⟩,
      ⟨[expression, ":", expression], .badTarget, atPart 0⟩,
      ⟨[.many (.oneOf [[targets, "="]]), starExpressions, "="], .badTarget, atTarget .assign 1⟩,
      ⟨[.many (.oneOf [[targets, "="]]), yielding, "="], .badTarget, atPart 1⟩,
      ⟨[starExpressions, operation, anyOf [yielding, starExpressions]], .badTarget, atPart 0⟩]
  | .deletion => [⟨["del", starExpressions], .badTarget, atTarget .delete 1⟩]
  | .block => [⟨[Lexeme.newline, .notAhead Lexeme.indent], .blockExpected, atReached⟩]
  | .comprehension => [
      ⟨[anyOf ["[", "(", "\x7b"], starred, clauses], .starredHere, atPart 1⟩,
      ⟨[anyOf ["[", "\x7b"], starNamed, ",", starNamedList, clauses], .bareTarget, atPart 1⟩,
      ⟨[anyOf ["[", "\x7b"], starNamed, ",", clauses], .bareTarget, atPart 1⟩]
  | .mappingComprehension => [⟨["\x7b", "**", bitOr, clauses, "\x7d"], .starredHere, atPart 1⟩]
  | .parameters => [
      ⟨[.many plainParam, defaultsBefore, plainParam], .defaultOrder, atPart 2⟩,
      ⟨[.many plainParam, "(", .some plainParam, .opt ",", ")"], .bracketedParams, atPart 1⟩,
      ⟨["/", ","], .slashPlace, atPart 0⟩,
      ⟨[anyOf [slashParams, slashDefaults], .many anyParam, "/"], .slashPlace, atPart 2⟩,
      ⟨[.opt (anyOf [slashParams, slashDefaults]), .many anyParam, "*", anyOf [",", plainParam],
        .many anyParam, "/"], .slashPlace, atPart 5⟩,
      ⟨[.some anyParam, "/", "*"], .expected ",", atPart 2⟩]
  | .default => [⟨["=", .ahead (anyOf [")", ","])], .missingDefault, atPart 0⟩]
  | .starParams => [
      ⟨["*", .oneOf [[")"], [",", anyOf [")", "**"]]]], .bareStar, atPart 0⟩,
      ⟨["*", param, "="], .defaultOfRest, atPart 2⟩,
      ⟨["*", anyOf [plainParam, ","], .many anyParam, "*", anyOf [plainParam, ","]], .starTwice,
        atPart 3⟩]
  | .restNamed => [
      ⟨["**", param, "="], .defaultOfRest, atPart 2⟩,
      ⟨["**", param, ",", param], .afterRest, atPart 3⟩,
      ⟨["**", param, ",", anyOf ["*", "**", "/"]], .afterRest, atPart 3⟩]
  | .lambdaParameters => [
      ⟨[.many lambdaPlainParam, lambdaDefaultsBefore, lambdaPlainParam], .defaultOrder, atPart 2⟩,
      ⟨[.many lambdaPlainParam, "(", .sep "," lambdaParam, .opt ",", ")"], .bracketedParams,
        atPart 1⟩,
      ⟨["/", ","], .slashPlace, atPart 0⟩,
      ⟨[anyOf [lambdaSlashParams, lambdaSlashDefaults], .many lambdaAnyParam, "/"], .slashPlace,
        atPart 2⟩,
      ⟨[.opt (anyOf [lambdaSlashParams, lambdaSlashDefaults]), .many lambdaAnyParam, "*",
        anyOf [",", lambdaPlainParam], .many lambdaAnyParam, "/"], .slashPlace, atPart 5⟩,
      ⟨[.some lambdaAnyParam, "/", "*"], .expected ",", atPart 2⟩]
  | .lambdaStarParams => [
      ⟨["*", .oneOf [[":"], [",", anyOf [":", "**"]]]], .bareStar, atReached⟩,
      ⟨["*", lambdaParam, "="], .defaultOfRest, atPart 2⟩,
      ⟨["*", anyOf [lambdaPlainParam, ","], .many lambdaAnyParam, "*",
        anyOf [lambdaPlainParam, ","]], .starTwice, atPart 3⟩]
  | .lambdaRestNamed => [
      ⟨["**", lambdaParam, "="], .defaultOfRest, atPart 2⟩,
      ⟨["**", lambdaParam, ",", lambdaParam], .afterRest, atPart 3⟩,
      ⟨["**", lambdaParam, ",", anyOf ["*", "**", "/"]], .afterRest, atPart 3⟩]
  | .withItem => [
      ⟨[expression, "as", expression, .ahead (anyOf [",", ")", ":"])], .badTarget,
        atTarget .assign 2⟩]
  | .forTarget => [⟨[.opt "async", "for", starExpressions], .badTarget, atTarget .loop 2⟩]
  | .group => [
      ⟨["(", starred, ")"], .starredHere, atPart 1⟩,
      ⟨["(", "**", expression, ")"], .starredHere, atPart 1⟩]
  | .importTargets => [⟨[memberNames, ",", Lexeme.newline], .trailingComma, atReached⟩]
  | .withBlock => [
      noColon [.opt "async", "with", .sep "," (.oneOf [[expression, maybe ["as", target]]])],
      noColon [.opt "async", "with", "(", .sep "," (.oneOf [[expressions, maybe ["as", target]]]),
        .opt ",", ")"]]
  | .withIndent => [
      noBlock [.opt "async", "with", .sep "," (.oneOf [[expression, maybe ["as", target]]])],
      noBlock [.opt "async", "with", "(", .sep "," (.oneOf [[expressions, maybe ["as", target]]]),
        .opt ",", ")"]]
  | .attempt => [
      noBlock ["try"],
      ⟨["try", ":", block, .notAhead (anyOf ["except", "finally"])], .missingHandler, atReached⟩,
      ⟨["try", ":", .many block, .some handler, "except", "*", expression,
        maybe ["as", Lexeme.name], ":"], .mixedHandlers, atPart 4⟩,
      ⟨["try", ":", .many block, .some groupHandler, "except",
        maybe [expression, maybe ["as", Lexeme.name]], ":"], .mixedHandlers, atPart 4⟩]
  | .handler => [
      ⟨["except", .opt "*", expression, ",", expressions, maybe ["as", Lexeme.name], ":"],
        .bareTypes, atPart 2⟩,
      noColon ["except", .opt "*", expression, maybe ["as", Lexeme.name]],
      noColon ["except"],
      ⟨["except", "*", anyOf [Lexeme.newline, ":"]], .missingTypes, atReached⟩]
  | .finalBlock => [noBlock ["finally"]]
  | .handlerIndent => [
      noBlock ["except", expression, maybe ["as", Lexeme.name]],
      noBlock ["except"]]
  | .groupHandlerIndent => [noBlock ["except", "*", expression, maybe ["as", Lexeme.name]]]
  | .matching => [noColon [.soft "match", subject], noBlock [.soft "match", subject]]
  | .caseBlock => [
      noColon [.soft "case", patterns, .opt guard],
      noBlock [.soft "case", patterns, .opt guard]]
  | .asPattern => [
      ⟨[orPattern, "as", .soft "_"], .badTarget, atPart 2⟩,
      ⟨[orPattern, "as", .notAhead Lexeme.name, expression], .badTarget, atPart 2⟩]
  | .classPattern => [⟨[nameOrPath, "(", mixedPatterns], .patternOrder, atLatePattern⟩]
  | .condition => [noColon ["if", namedExpression], noBlock ["if", namedExpression]]
  | .furtherCondition => [noColon ["elif", namedExpression], noBlock ["elif", namedExpression]]
  | .elseBlock => [noBlock ["else"]]
  | .whileLoop => [noColon ["while", namedExpression], noBlock ["while", namedExpression]]
  | .forLoop => [
      noColon [.opt "async", "for", targets, "in", starExpressions],
      noBlock [.opt "async", "for", targets, "in", starExpressions]]
  | .function => [
      noBlock [.opt "async", "def", Lexeme.name, "(", .opt params, ")", maybe ["->", expression]]]
  | .classDef => [
      noColon ["class", Lexeme.name, maybe ["(", .opt arguments, ")"]],
      noBlock ["class", Lexeme.name, maybe ["(", .opt arguments, ")"]]]
  | .entries => [
      ⟨[.sep "," entry, ",", Misuse.entry], .missingColon, fun _ => none⟩,
      ⟨[expression, ":", "*", bitOr], .starredValue, atPart 2⟩,
      ⟨[expression, ":", .ahead (anyOf ["\x7d", ","])], .missingValue, atPart 1⟩]
  | .entry => [
      ⟨[expression, .notAhead ":"], .missingColon, atPart 0⟩,
      ⟨[expression, ":", "*", bitOr], .starredValue, atPart 2⟩,
      ⟨[expression, ":", .ahead (anyOf ["\x7d", ","])], .missingValue, atPart 1⟩]

/-- Whether what a misuse finds at a place is kept for when it is looked for there again. -/
def Misuse.isKept (m : Misuse) : Bool := m = .named

end ArchModel.Source.Grammar
