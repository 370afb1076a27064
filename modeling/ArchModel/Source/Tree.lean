import ArchModel.Source.Token

/-!
# The syntax tree of a source file

The tree keeps what an analysis of names, classes and calls needs to know. Expressions and
statements of which only the parts matter are `Expr.other`, `Stmt.simple` and `Stmt.compound`, with
their parts in the order of the source.

* `Expr` and `Stmt` are the tree, `Function` and `ClassDef` its declarations.
* `Expr.dotted?` is the dotted name that an expression is.
* `Stmt.calls` and `Stmt.assignments` list the calls and assignments in a body, nested functions
  included and nested classes left out; `imports` lists the import statements of a whole file,
  outer ones first.
* `docstring?` is the text that documents a declaration.
-/

namespace ArchModel.Source

/-- An expression. -/
inductive Expr
  | name (id : String)
  | member (value : Expr) (attr : String)
  | subscript (value index : Expr)
  /-- A call, with the place where it starts. -/
  | call (func : Expr) (args : List Expr) (place : Position)
  /-- A text that is known when it is read. -/
  | text (value : String)
  /-- Any other literal. -/
  | literal
  /-- Two expressions with a bar between them. -/
  | union (left right : Expr)
  | tuple (items : List Expr)
  | list (items : List Expr)
  | starred (value : Expr)
  | other (parts : List Expr)
  deriving Repr, Inhabited

/-- A parameter of a function. -/
structure Param where
  name : String
  /-- The annotation behind its name. -/
  hint : Option Expr
  line : Nat
  deriving Repr, Inhabited

/-- The parameters of a function by kind. -/
structure Params where
  /-- Those that are given by position, in order. -/
  positional : List Param := []
  /-- The one that takes further positions. -/
  rest : Option Param := none
  /-- Those that are given by name. -/
  named : List Param := []
  /-- The one that takes further names. -/
  restNamed : Option Param := none
  /-- The default values. -/
  defaults : List Expr := []
  deriving Repr, Inhabited

namespace Params

/-- All parameters, those that take what is left at the end. -/
def all (p : Params) : List Param :=
  p.positional ++ p.named ++ p.rest.toList ++ p.restNamed.toList

/-- The expressions in the parameters. -/
def exprs (p : Params) : List Expr := p.all.filterMap (·.hint) ++ p.defaults

end Params

/-- A function, whose body has statements of type `σ`. -/
structure FunctionOf (σ : Type) where
  name : String
  isAsync : Bool
  /-- The line of the keyword that starts it. -/
  line : Nat
  params : Params
  returns : Option Expr
  decorators : List Expr
  body : List σ
  deriving Repr, Inhabited

/-- A class, whose body has statements of type `σ`. -/
structure ClassOf (σ : Type) where
  name : String
  /-- The line of the keyword that starts it. -/
  line : Nat
  bases : List Expr
  body : List σ
  deriving Repr, Inhabited

/-- An import of a module by its dotted name, with the name it gets if that is another one. -/
structure ImportName where
  name : String
  as : Option String
  deriving DecidableEq, Repr, Inhabited

/-- An import statement. -/
inductive Import
  /-- Modules by their dotted names. -/
  | modules (names : List ImportName)
  /-- Names of a module; `level` is the number of leading dots. -/
  | members (module : Option String) (names : List ImportName) (level : Nat)
  deriving DecidableEq, Repr, Inhabited

/-- An assignment: to targets without an annotation, or to one with. -/
inductive Assignment
  | plain (targets : List Expr) (value : Expr)
  | annotated (target annotation : Expr) (value : Option Expr)
  deriving Repr, Inhabited

namespace Assignment

/-- The expressions of an assignment. -/
def exprs : Assignment → List Expr
  | plain targets value => targets ++ [value]
  | annotated target annotation value => target :: annotation :: value.toList

end Assignment

/-- A statement. -/
inductive Stmt
  | classDef (c : ClassOf Stmt)
  | function (f : FunctionOf Stmt)
  | assign (a : Assignment) (place : Position)
  | importing (i : Import)
  /-- An expression on its own. -/
  | expr (value : Expr) (line : Nat)
  | conditional (test : Expr) (body orelse : List Stmt)
  /-- A body that is tried; `rest` holds the handlers and what follows them. -/
  | attempt (body rest : List Stmt)
  /-- Any other statement without a body. -/
  | simple (parts : List Expr)
  /-- Any other statement with a body, or a part of one. -/
  | compound (parts : List Expr) (body : List Stmt)
  deriving Repr, Inhabited

/-- A function. -/
abbrev Function := FunctionOf Stmt

/-- A class. -/
abbrev ClassDef := ClassOf Stmt

namespace Expr

/-- The dotted name that an expression is: a name, or an attribute of a dotted name. -/
def dotted? : Expr → Option String
  | name id => some id
  | member value attr => (dotted? value).map fun head => head ++ "." ++ attr
  | _ => none

/-- The attribute of the object itself that an expression is. -/
def selfAttribute? : Expr → Option String
  | member (name "self") attr => some attr
  | _ => none

end Expr

/-! ## Calls -/

/-- A call within an expression. -/
structure Call where
  func : Expr
  /-- The place where it starts. -/
  place : Position
  /-- Whether a member of its result is called. -/
  isReceiver : Bool
  deriving Repr, Inhabited

/-- What an expression is to the expression around it. -/
inductive CallRole
  | plain
  /-- It is called. -/
  | called
  /-- A member of it is called. -/
  | receiver
  deriving DecidableEq, Repr

mutual

/-- The calls in an expression, outer ones first. -/
def Expr.calls (role : CallRole) : Expr → List Call
  | .name _ => []
  | .member value _ => value.calls (if role = .called then .receiver else .plain)
  | .subscript value index => value.calls .plain ++ index.calls .plain
  | .call func args place =>
    ⟨func, place, role = .receiver⟩ :: (func.calls .called ++ Expr.callsAll args)
  | .text _ => []
  | .literal => []
  | .union left right => left.calls .plain ++ right.calls .plain
  | .tuple items => Expr.callsAll items
  | .list items => Expr.callsAll items
  | .starred value => value.calls .plain
  | .other parts => Expr.callsAll parts

/-- The calls in several expressions. -/
def Expr.callsAll : List Expr → List Call
  | [] => []
  | e :: es => e.calls .plain ++ Expr.callsAll es

end

mutual

/-- The calls in a statement. The inside of a class says nothing about the body around it. -/
def Stmt.calls : Stmt → List Call
  | .classDef _ => []
  | .function f => FunctionOf.calls f
  | .assign a _ => Expr.callsAll a.exprs
  | .importing _ => []
  | .expr value _ => value.calls .plain
  | .conditional test body orelse =>
    test.calls .plain ++ Stmt.callsAll body ++ Stmt.callsAll orelse
  | .attempt body rest => Stmt.callsAll body ++ Stmt.callsAll rest
  | .simple parts => Expr.callsAll parts
  | .compound parts body => Expr.callsAll parts ++ Stmt.callsAll body

/-- The calls in a nested function, its signature included. -/
def FunctionOf.calls : FunctionOf Stmt → List Call
  | ⟨_, _, _, params, returns, decorators, body⟩ =>
    Expr.callsAll params.exprs ++ Stmt.callsAll body ++
      Expr.callsAll decorators ++ Expr.callsAll returns.toList

/-- The calls in several statements. -/
def Stmt.callsAll : List Stmt → List Call
  | [] => []
  | s :: ss => s.calls ++ Stmt.callsAll ss

end

/-! ## Assignments -/

mutual

/-- The assignments in a statement, with their places. The inside of a class is left out. -/
def Stmt.assignments : Stmt → List (Assignment × Position)
  | .classDef _ => []
  | .function f => FunctionOf.assignments f
  | .assign a place => [(a, place)]
  | .importing _ => []
  | .expr .. => []
  | .conditional _ body orelse => Stmt.assignmentsAll body ++ Stmt.assignmentsAll orelse
  | .attempt body rest => Stmt.assignmentsAll body ++ Stmt.assignmentsAll rest
  | .simple _ => []
  | .compound _ body => Stmt.assignmentsAll body

/-- The assignments in a nested function. -/
def FunctionOf.assignments : FunctionOf Stmt → List (Assignment × Position)
  | ⟨_, _, _, _, _, _, body⟩ => Stmt.assignmentsAll body

/-- The assignments in several statements. -/
def Stmt.assignmentsAll : List Stmt → List (Assignment × Position)
  | [] => []
  | s :: ss => s.assignments ++ Stmt.assignmentsAll ss

end

namespace FunctionOf

/-- The calls in the body of a function, in the order of their places; of two calls that start at
one place the outer one comes first. -/
def sortedCalls (f : Function) : List Call :=
  (Stmt.callsAll f.body).mergeSort fun a b => a.place.le b.place

/-- The assignments in the body of a function, in the order of their places. -/
def sortedAssignments (f : Function) : List (Assignment × Position) :=
  (Stmt.assignmentsAll f.body).mergeSort fun a b => a.2.le b.2

end FunctionOf

/-! ## Imports -/

mutual

/-- The imports in a statement, each with the number of statements around it. -/
def Stmt.imports (depth : Nat) : Stmt → List (Nat × Import)
  | .classDef c => ClassOf.imports depth c
  | .function f => FunctionOf.imports depth f
  | .assign .. => []
  | .importing i => [(depth, i)]
  | .expr .. => []
  | .conditional _ body orelse =>
    Stmt.importsAll (depth + 1) body ++ Stmt.importsAll (depth + 1) orelse
  | .attempt body rest => Stmt.importsAll (depth + 1) body ++ Stmt.importsAll (depth + 1) rest
  | .simple _ => []
  | .compound _ body => Stmt.importsAll (depth + 1) body

/-- The imports in a class. -/
def ClassOf.imports (depth : Nat) : ClassOf Stmt → List (Nat × Import)
  | ⟨_, _, _, body⟩ => Stmt.importsAll (depth + 1) body

/-- The imports in a function. -/
def FunctionOf.imports (depth : Nat) : FunctionOf Stmt → List (Nat × Import)
  | ⟨_, _, _, _, _, _, body⟩ => Stmt.importsAll (depth + 1) body

/-- The imports in several statements. -/
def Stmt.importsAll (depth : Nat) : List Stmt → List (Nat × Import)
  | [] => []
  | s :: ss => s.imports depth ++ Stmt.importsAll depth ss

end

/-- The imports of a file: those with fewer statements around them first, and in the order of the
source where these are equally many. -/
def importsOf (body : List Stmt) : List Import :=
  ((Stmt.importsAll 0 body).mergeSort fun a b => a.1 ≤ b.1).map (·.2)

/-! ## Docstrings -/

/-- The text that documents a declaration, with the line where its statement starts: the first
statement of the body, if it is a text alone. -/
def docstring? (body : List Stmt) : Option (String × Nat) :=
  match body with
  | .expr (.text s) line :: _ => some (s, line)
  | _ => none

end ArchModel.Source
