import ArchModel.Source.Node
import ArchModel.Source.Tree
import ArchModel.Text.Normal

/-!
# The syntax tree of nodes

A node stands for pieces of the syntax tree: signs, names, expressions, parameters, statements. What
the pieces of its parts make together depends on the rule alone: some rules leave the pieces as they
are, for the rule around them, and the others make one piece of them.

* `Piece.ofNode` are the pieces of a node.
* `Stmt.ofNode` are the statements and `Expr.ofNode` is the expression that a node stands for.
-/

namespace ArchModel.Source

open Grammar (Rule)

/-- What a piece of the syntax tree is. -/
inductive PieceKind
  | mark (sign : String)
  | name (id : String)
  | value (e : Expr)
  /-- An expression that goes by name, or stands behind a pattern. -/
  | apart (e : Expr)
  | param (p : Param)
  | default (e : Expr)
  | imported (i : ImportName)
  | stmts (body : List Stmt)
  deriving Inhabited

/-- A piece of the syntax tree, with the place where it starts. -/
structure Piece where
  kind : PieceKind
  place : Position
  deriving Inhabited

namespace Piece

/-- Whether a piece is a given sign. -/
def isMark (s : String) (p : Piece) : Bool :=
  match p.kind with
  | .mark t => s == t
  | _ => false

/-- The name that a piece is. -/
def name? (p : Piece) : Option String :=
  match p.kind with
  | .name s => some s
  | _ => none

/-- The expression that a piece is. Four signs stand for values. -/
def value? (p : Piece) : Option Expr :=
  match p.kind with
  | .value e => some e
  | .name s => some (.name s)
  | .mark s => if ["True", "False", "None", "..."].contains s then some .literal else none
  | _ => none

/-- The expression that a piece is, if it stands apart. -/
def apart? (p : Piece) : Option Expr :=
  match p.kind with
  | .apart e => some e
  | _ => none

/-- The default value that a piece is. -/
def default? (p : Piece) : Option Expr :=
  match p.kind with
  | .default e => some e
  | _ => none

/-- The import that a piece is. -/
def imported? (p : Piece) : Option ImportName :=
  match p.kind with
  | .imported i => some i
  | _ => none

/-- The statements that a piece is. -/
def stmts? (p : Piece) : Option (List Stmt) :=
  match p.kind with
  | .stmts body => some body
  | _ => none

/-- The expressions among pieces. -/
def values (ps : List Piece) : List Expr := ps.filterMap value?

/-- The statements among pieces. -/
def body (ps : List Piece) : List Stmt := (ps.filterMap stmts?).flatten

/-- The names among pieces, with dots between them. -/
def dotted (ps : List Piece) : String := ".".intercalate (ps.filterMap name?)

/-- The pieces in front of a sign. -/
def before (s : String) (ps : List Piece) : List Piece := ps.takeWhile fun p => !p.isMark s

/-- The pieces behind a sign. -/
def behind (s : String) (ps : List Piece) : List Piece := (ps.dropWhile fun p => !p.isMark s).drop 1

/-! ## Expressions -/

/-- What stands behind an expression: a member, arguments or a subscript. -/
def trailed (place : Position) : List Piece → Expr
  | [func, arg] => .call (func.value?.getD .literal) arg.value?.toList place
  | head :: sign :: rest =>
    let value := head.value?.getD .literal
    if sign.isMark "." then .member value (dotted rest)
    else if sign.isMark "[" then .subscript value ((values rest).headD .literal)
    else .call value (values rest ++ rest.filterMap apart?) place
  | _ => .literal

/-- What stands between brackets: an expression, or a list or a tuple. -/
def bracketed (ps : List Piece) : Expr :=
  if ps.head?.any (isMark "[") then .list (values ps)
  else if ps.any (isMark ",") then .tuple (values ps)
  else (values ps).headD (.tuple [])

/-! ## Parameters -/

/-- What the next parameter is for. -/
inductive ParamUse
  | positional
  | rest
  | named
  | restNamed

/-- Add a piece to the parameters in front of it. -/
def addParam (s : ParamUse × Params) (p : Piece) : ParamUse × Params :=
  let (use, params) := s
  match p.kind with
  | .mark "*" => (.rest, params)
  | .mark "**" => (.restNamed, params)
  | .mark "," => (match use with | .rest => .named | u => u, params)
  | .default e => (use, { params with defaults := params.defaults ++ [e] })
  | .param q =>
    match use with
    | .positional => (use, { params with positional := params.positional ++ [q] })
    | .rest => (.named, { params with rest := some q })
    | .named => (use, { params with named := params.named ++ [q] })
    | .restNamed => (use, { params with restNamed := some q })
  | _ => s

/-- The parameters among pieces. -/
def params (ps : List Piece) : Params := (ps.foldl addParam (.positional, {})).2

/-! ## Statements -/

/-- The statement that a piece stands for on its own. -/
def alone (line : Nat) (p : Piece) : List Stmt :=
  match p.stmts?, p.value? with
  | some body, _ => body
  | none, some e => [.expr e line]
  | none, none => [.simple []]

/-- An assignment, or a statement that assigns the result of an operation. -/
def assignmentOf (place : Position) (ps : List Piece) : Stmt :=
  if ps.any (isMark ":") then
    let value := behind ":" ps
    .assign (.annotated ((values (before ":" ps)).headD .literal)
      ((values (before "=" value)).headD .literal) (values (behind "=" value)).head?) place
  else if ps.any (isMark "=") then
    .assign (.plain (values ps).dropLast ((values ps).getLastD .literal)) place
  else .simple (values ps)

/-- The level of an import: the dots in front of the name of a module. -/
def importLevel (ps : List Piece) : Nat :=
  (ps.takeWhile fun p => p.name?.isNone).foldl (fun n p =>
    if p.isMark "." then n + 1 else if p.isMark "..." then n + 3 else n) 0

/-- An import of names of a module. -/
def importOf (ps : List Piece) : Import :=
  let module := before "import" ps
  let names := ps.filterMap imported?
  .members (if module.any fun p => p.name?.isSome then some (dotted module) else none)
    (if names.isEmpty then [⟨"*", none⟩] else names) (importLevel module)

/-- An import under its own name or another one. -/
def importedAs (ps : List Piece) : ImportName :=
  ⟨dotted (before "as" ps), (behind "as" ps).head?.bind name?⟩

/-- A function without decorators; its pieces are its name, its parameters, what it returns, and its
body. -/
def functionOf (place : Position) (ps : List Piece) : Function :=
  { name := (ps.findSome? name?).getD ""
    isAsync := ps.head?.any (isMark "async")
    line := place.line
    params := params ps
    returns := (values (behind "->" ps)).head?
    decorators := []
    body := body ps }

/-- A class; its pieces are its name, the arguments behind it, and its body. -/
def classOf (place : Position) (ps : List Piece) : ClassDef :=
  { name := (ps.findSome? name?).getD ""
    line := place.line
    bases := values (behind "(" ps)
    body := body ps }

/-- A body that is tried. -/
def attemptOf (ps : List Piece) : Stmt :=
  let blocks := ps.filterMap stmts?
  let first := blocks.headD []
  let rest := blocks.tail.flatten
  if ps.any (isMark "*") then .compound [] (first ++ rest) else .attempt first rest

/-- A declaration behind its decorators. Those of a class say nothing. -/
def decorate (ps : List Piece) : List Stmt :=
  (body ps).map fun s => match s with
    | .function f => .function { f with decorators := values ps }
    | s => s

/-- The texts in a pattern and the condition behind it. -/
def caseParts (ps : List Piece) : List Expr :=
  (values ps).filter (fun e => match e with
    | .text _ | .other _ => true
    | _ => false) ++ ps.filterMap apart?

/-! ## Rules -/

/-- What a rule makes of the pieces that its parts stand for. -/
def ofRule (r : Rule) (place : Position) (ps : List Piece) : List Piece :=
  let value := fun e : Expr => [⟨.value e, place⟩]
  let stmt := fun s : Stmt => [⟨.stmts [s], place⟩]
  match r with
  -- statements
  | .file | .block | .simpleLine => [⟨.stmts (body ps), place⟩]
  | .simple => [⟨.stmts (ps.flatMap (alone place.line)), place⟩]
  | .assignment => stmt (assignmentOf place ps)
  | .returning | .raising | .deleting | .asserting => stmt (.simple (values ps))
  | .naming => stmt (.simple [])
  | .importModules => stmt (.importing (.modules (ps.filterMap imported?)))
  | .importMembers => stmt (.importing (importOf ps))
  | .moduleName | .memberName => [⟨.imported (importedAs ps), place⟩]
  | .plainClass => stmt (.classDef (classOf place ps))
  | .plainFunction => stmt (.function (functionOf place ps))
  | .classDef | .function => [⟨.stmts (decorate ps), place⟩]
  | .condition | .furtherCondition =>
    let blocks := ps.filterMap stmts?
    stmt (.conditional ((values ps).headD .literal) (blocks.headD []) blocks.tail.flatten)
  | .whileLoop | .forLoop | .withBlock => stmt (.compound (values ps) (body ps))
  | .handler => stmt (.compound (values (before "as" ps)) (body ps))
  | .groupHandler =>
    ⟨.mark "*", place⟩ :: stmt (.compound (values (before "as" ps)) (body ps))
  | .attempt => stmt (attemptOf ps)
  | .matching => stmt (.compound (values (ps.drop 1)) (body ps))
  | .caseBlock => stmt (.compound (caseParts ps) (body ps))
  | .guard => ps.filterMap value? |>.map fun e => ⟨.apart e, place⟩
  -- parameters
  | .param | .starHintParam =>
    [⟨.param ⟨(ps.findSome? name?).getD "", (values (behind ":" ps)).head?, place.line⟩, place⟩]
  | .defaultValue => (values ps).map fun e => ⟨.default e, place⟩
  -- expressions
  | .primary | .targetPrimary | .starlessTarget | .deleteTarget | .singleMember =>
    value (trailed place ps)
  | .bitOr =>
    match values ps with
    | [left, right] => value (.union left right)
    | es => value (.other es)
  | .starExpressions | .expressions | .tupleDisplay | .slices | .targets | .subject => value (.tuple (values ps))
  | .listDisplay => value (.list (values ps))
  | .targetAtom | .deleteAtom | .singleTarget => value (bracketed ps)
  | .starExpression | .starNamed | .starred | .target =>
    value (.starred ((values ps).headD .literal))
  | .namedOrStarred | .namedOrSpread =>
    [⟨.apart ((values ps).getLastD .literal), place⟩]
  | .lambda =>
    value (.other (ps.filterMap default? ++ (values ps).getLast?.toList))
  | .expression | .named | .yielding | .disjunction | .conjunction | .inversion | .comparison
  | .bitXor | .bitAnd | .shift | .sum | .term | .factor | .power | .awaited | .slice
  | .setDisplay | .mappingDisplay | .listOver | .setOver | .generator | .mappingOver =>
    value (.other (values ps))
  | _ => ps

/-- The piece that a token is. Names have their composed form. -/
def ofToken (t : Token) : List Piece :=
  match t.kind with
  | .sign s => [⟨.mark s, t.place⟩]
  | .name s => [⟨.name (Text.composedForm s), t.place⟩]
  | .number _ => [⟨.value .literal, t.place⟩]
  | _ => []

mutual

/-- The pieces of a node. -/
def ofNode : Node → List Piece
  | .leaf t => ofToken t
  | .branch r place parts => ofRule r place (ofNodes parts)
  | .row items => ofNodes items
  | .text place (some s) => [⟨.value (.text s), place⟩]
  | .text place none => [⟨.value .literal, place⟩]
  | .format place parts => [⟨.value (.other (values (ofNodes parts))), place⟩]

/-- The pieces of several nodes. -/
def ofNodes : List Node → List Piece
  | [] => []
  | n :: ns => ofNode n ++ ofNodes ns

end

end Piece

/-- The statements that a node stands for. -/
def Stmt.ofNode (n : Node) : List Stmt := Piece.body (Piece.ofNode n)

/-- The expression that a node stands for. -/
def Expr.ofNode (n : Node) : Expr := (Piece.values (Piece.ofNode n)).headD .literal

end ArchModel.Source
