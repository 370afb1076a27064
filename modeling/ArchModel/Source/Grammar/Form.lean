/-!
# Forms of the grammar

A grammar gives each rule its forms in the order in which they are tried. A form is a row of parts:
signs and other tokens, rules, groups with alternatives of their own, repetitions, and conditions
on what follows.

* `Rule` names the rules, `Misuse` the wrong uses that are recognised to tell what is wrong.
* `Form` is a part of a form.
-/

namespace ArchModel.Source.Grammar

/-- A rule of the grammar. -/
inductive Rule
  -- whole texts
  | file | soleExpression | formatted
  -- statements
  | statements | statement | compound | simpleLine | simple
  | assignment | assigned | operation
  | returning | raising | naming | deleting | asserting
  | importing | importModules | importMembers | importTargets
  | memberNames | memberName | moduleNames | moduleName | dottedName
  | block | decorators | classDef | plainClass | function | plainFunction
  | params | parameters | slashParams | slashDefaults | starParams | restNamed
  | plainParam | starredParam | defaultParam | anyParam | param | starHintParam
  | hint | starHint | defaultValue | defaultsBefore
  | condition | furtherCondition | elseBlock | whileLoop | forLoop | withBlock | withItem
  | attempt | handler | groupHandler | finalBlock
  | matching | subject | caseBlock | guard
  -- patterns
  | patterns | pattern | asPattern | orPattern | closedPattern
  | literalPattern | literalKey | complexNumber | signedNumber | signedReal | real | imaginary
  | capture | captureName | wildcard | valuePattern | path | nameOrPath
  | groupPattern | sequencePattern | openSequence | maybeSequence | maybeStar | starPattern
  | mappingPattern | mappingItems | mappingItem | mappingRest
  | classPattern | positionalPatterns | keywordPatterns | keywordPattern | mixedPatterns
  -- expressions
  | expressions | expression | plainExpression | yielding
  | starExpressions | starExpression | starNamedList | starNamed | namedExpression | named
  | disjunction | conjunction | inversion | comparison | compared
  | equal | unequal | atMost | less | atLeast | greater | notIn | isIn | isNot | same
  | bitOr | bitXor | bitAnd | shift | sum | term | factor | power | awaited | primary
  | slices | slice | atom | group | texts
  | listDisplay | tupleDisplay | setDisplay | mappingDisplay
  | entries | entry | pair | clauses | clause
  | listOver | setOver | generator | mappingOver
  | lambda | lambdaParams | lambdaParameters | lambdaSlashParams | lambdaSlashDefaults
  | lambdaStarParams | lambdaRestNamed | lambdaPlainParam | lambdaDefaultParam | lambdaAnyParam
  | lambdaParam | lambdaDefaultsBefore
  | arguments | args | namedArgs | starred | namedOrStarred | namedOrSpread
  -- targets
  | targets | targetList | targetTuple | target | starlessTarget | targetAtom
  | singleTarget | singleMember | targetPrimary | targetNext | bracketedTarget
  | deleteTargets | deleteTarget | deleteAtom
  deriving DecidableEq, Repr, Inhabited

/-- A wrong use of the grammar. -/
inductive Misuse
  | arguments | namedArgument | expression | wordStatement | named | assignment | deletion
  | block | comprehension | mappingComprehension | parameters | default | starParams | restNamed
  | lambdaParameters | lambdaStarParams | lambdaRestNamed
  | withItem | forTarget | group | importTargets | withBlock | withIndent | attempt
  | handler | finalBlock | handlerIndent | groupHandlerIndent
  | matching | caseBlock | asPattern | classPattern
  | condition | furtherCondition | elseBlock | whileLoop | forLoop | function | classDef
  | entries | entry
  deriving DecidableEq, Repr, Inhabited

/-- The tokens that are not given by their spelling. -/
inductive Lexeme
  | name
  /-- A name that is a reserved word in some places. -/
  | softWord
  | number
  | text
  | newline
  | indent
  | dedent
  | finish
  deriving DecidableEq, Repr

/-- A part of a form. -/
inductive Form
  /-- An operator, a bracket or a reserved word. -/
  | sign (spelling : String)
  /-- A name that is a reserved word here. -/
  | soft (word : String)
  | lexeme (l : Lexeme)
  | rule (r : Rule)
  | misuse (m : Misuse)
  /-- One of several rows of parts. -/
  | oneOf (rows : List (List Form))
  | opt (part : Form)
  | many (part : Form)
  | some (part : Form)
  /-- One or more parts with a sign between them. -/
  | sep (spelling : String) (part : Form)
  /-- What follows is of a form; it is not passed. -/
  | ahead (part : Form)
  /-- What follows is not of a form. -/
  | notAhead (part : Form)
  /-- No further form of the rule is tried. -/
  | cut
  /-- A sign whose absence is a fault at once. -/
  | must (spelling : String)

instance : Coe String Form := ⟨.sign⟩
instance : Coe Rule Form := ⟨.rule⟩
instance : Coe Misuse Form := ⟨.misuse⟩
instance : Coe Lexeme Form := ⟨.lexeme⟩

namespace Form

/-- One of several parts. -/
def anyOf (parts : List Form) : Form := .oneOf (parts.map fun p => [p])

/-- A row of parts, or nothing. -/
def maybe (parts : List Form) : Form := .opt (.oneOf [parts])

end Form

end ArchModel.Source.Grammar
