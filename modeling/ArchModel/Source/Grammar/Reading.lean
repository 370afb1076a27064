import ArchModel.Source.Format
import ArchModel.Source.Grammar.Misuses
import Std.Data.TreeMap

/-!
# Reading by the grammar

A row of tokens is read from a place on by trying the forms of a rule in their order; the first one
that fits counts. What some rules read at a place is kept, also that they read nothing.

* `readPart`, `readRow`, `readRows`, `readRule` read a part, a row of parts, the first of several
  rows that fits, and a rule.
* `readMisuse` looks for the wrong forms of a misuse; the first one that is a fault ends the
  reading.
* `readTokens` reads a whole row of tokens. If this fails, the row is read once more and misuses are
  looked for on the way.

A fault of the grammar gives way to a later text or number that is no token, and to a bracket that
was opened in front of the furthest line and is never closed.
-/

namespace ArchModel.Source.Grammar

/-- Why reading stops. -/
inductive Stop
  /-- The row cannot be divided into tokens any further. -/
  | lexical (f : SourceFault)
  /-- A fault of the grammar. -/
  | grammar (f : SourceFault)

/-- The state of reading. -/
structure State where
  /-- What was read by a rule at a place, with the place behind it. -/
  kept : Std.TreeMap Nat (Option Node × Nat) := {}
  /-- The number of tokens up to the furthest one that was looked at. -/
  reached : Nat := 0

/-- A reading step. -/
abbrev Reader := EStateM Stop State

/-- What comes of a row of parts. -/
inductive Outcome
  /-- Nodes, and the place behind them. -/
  | read (nodes : List Node) (place : Nat)
  /-- Nothing; the answer says whether no other row is tried. -/
  | missed (isFinal : Bool)

/-- The number of rules, groups and repetitions within one another at which reading ends. -/
def maxLevel : Nat := 6000

/-- Go into a rule, a group or a repetition. -/
def enter (level : Nat) : Reader Unit := do
  if level = maxLevel then throw (.lexical ⟨.tooComplex, 0⟩)

/-- Look at a token: it, if a test holds of it. -/
def look (row : Array Token) (place : Nat) (test : TokenKind → Bool) : Reader (Option Token) := do
  match row[place]? with
  | none => return none
  | some t =>
    modify fun s => { s with reached := max s.reached (place + 1) }
    match t.kind with
    | .bad f => throw (.lexical f.fault)
    | k => return if test k then some t else none

/-- The line of the furthest token that was looked at. -/
def reachedLine (row : Array Token) : Reader Nat := do
  return (row.getD ((← get).reached - 1) default).place.line

/-- The words that are reserved in some places. -/
def softWords : List String := ["_", "case", "match"]

/-- Whether a token is of a kind. The start of a word that is reserved in some places counts as one,
for more of it may follow. -/
def Lexeme.fits : Lexeme → TokenKind → Bool
  | name, .name _ => true
  | softWord, .name w => softWords.any fun s => w.toList.isPrefixOf s.toList
  | number, .number _ => true
  | text, .text _ => true
  | newline, .newline => true
  | indent, .indent => true
  | dedent, .dedent => true
  | finish, .finish => true
  | _, _ => false

/-- Whether an integer has more decimal digits than may be written. -/
def isLongNumber (written : String) : Bool :=
  let ds := written.toList.filter (· ≠ '_')
  4300 < ds.length && ds.head? != some '0' && ds.all Char.isDigit

/-- Whether a number is a multiple of the imaginary unit. -/
def isImaginary (written : String) : Bool := written.endsWith "j" || written.endsWith "J"

/-- What is wrong with a number at its place. -/
def numberFault? (r : Rule) : Node → Option SourceFault
  | .leaf ⟨.number w, p, _⟩ =>
    if r = .real && isImaginary w then some ⟨.realExpected, p.line⟩
    else if r = .imaginary && !isImaginary w then some ⟨.imaginaryExpected, p.line⟩
    else none
  | _ => none

/-- The fault in the rest of a row that prevails over one of the grammar. -/
def laterFault (row : Array Token) (reached : Nat) (f : SourceFault) : SourceFault :=
  match row.back?.map Token.kind with
  | some (.bad b) =>
    if b.prevails then b.fault
    else match b.bracket with
      | some (c, line) =>
        if line < (row.getD (reached - 1) default).place.line then ⟨.neverClosed c, line⟩ else f
      | none => f
  | _ => f

/-- The fault that ends a reading. -/
def Stop.fault (row : Array Token) (reached : Nat) : Stop → SourceFault
  | .lexical f => f
  | .grammar f => laterFault row reached f

/-- The fault of a row of tokens that fits no form, if no misuse explains it: `first` is the number
of tokens that were looked at when the row was read, `reached` the number with misuses. -/
def unexplained (row : Array Token) (first reached : Nat) : SourceFault :=
  let last := row.getD (first - 1) default
  let line := (row.getD (reached - 1) default).place.line
  match last.kind with
  | .indent => ⟨.unexpectedIndent, line⟩
  | .dedent => ⟨.unexpectedUnindent, line⟩
  | _ => laterFault row reached ⟨.invalidSyntax, last.place.line⟩

/-- The number under which what a rule reads at a place is kept. -/
def keptAt (r : Rule) (place : Nat) : Nat := 256 * place + r.ctorIdx

/-- The number under which what a misuse finds at a place is kept. -/
def keptMisuse (place : Nat) : Nat := 256 * place + 255

/-- Keep what is read at a place. -/
def keep (key : Nat) (n : Option Node) (place : Nat) : Reader Unit :=
  modify fun s => { s with kept := s.kept.insert key (n, place) }

mutual

/-- Read a part: its node, if it has one, and the place behind it. -/
def readPart (row : Array Token) (diagnosing : Bool) (level place : Nat) (part : Form) :
    Nat → Reader (Option (Option Node × Nat))
  | 0 => return none
  | fuel + 1 => do
    match part with
    | .sign s => return (← look row place (· == .sign s)).map fun t => (some (.leaf t), place + 1)
    | .soft w => return (← look row place (· == .name w)).map fun t => (some (.leaf t), place + 1)
    | .lexeme l =>
      match ← look row place l.fits with
      | none => return none
      | some t =>
        match t.kind with
        | .number w => if isLongNumber w then throw (.grammar ⟨.longNumber, t.place.line⟩)
        | _ => pure ()
        return some (some (.leaf t), place + 1)
    | .rule r =>
      return (← readRule row diagnosing level place r fuel).map fun (n, p) => (some n, p)
    | .misuse m =>
      readMisuse row diagnosing level place m fuel
      return none
    | .oneOf rows =>
      enter level
      return (← readRows row diagnosing (level + 1) place rows fuel).map fun (ns, p) =>
        (some (.ofParts ns), p)
    | .opt p =>
      match ← readPart row diagnosing level place p fuel with
      | some (n, q) => return some (some (.row n.toList), q)
      | none => return some (some (.row []), place)
    | .many p =>
      enter level
      let (ns, q) ← readMany row diagnosing (level + 1) place [p] [] fuel
      return some (some (.row ns), q)
    | .some p =>
      enter level
      let (ns, q) ← readMany row diagnosing (level + 1) place [p] [] fuel
      return if ns.isEmpty then none else some (some (.row ns), q)
    | .sep s p =>
      enter level
      match ← readPart row diagnosing (level + 1) place p fuel with
      | none => return none
      | some (first, q) =>
        enter (level + 1)
        let (ns, q) ← readMany row diagnosing (level + 2) q [.sign s, p] first.toList fuel
        return some (some (.row ns), q)
    | .ahead p =>
      return (← readPart row diagnosing level place p fuel).map fun _ => (none, place)
    | .notAhead p =>
      match ← readPart row diagnosing level place p fuel with
      | some _ => return none
      | none => return some (none, place)
    | .cut => return some (none, place)
    | .must s =>
      match ← look row place (· == .sign s) with
      | some t => return some (some (.leaf t), place + 1)
      | none =>
        throw (.grammar ⟨.expected s, (row.getD place default).place.line⟩)
termination_by structural fuel => fuel

/-- Read rows of the same parts as long as one fits. -/
def readMany (row : Array Token) (diagnosing : Bool) (level place : Nat) (parts : List Form)
    (before : List Node) : Nat → Reader (List Node × Nat)
  | 0 => return (before.reverse, place)
  | fuel + 1 => do
    match ← readRow row diagnosing level place parts [] false fuel with
    | .read ns q => readMany row diagnosing level q parts (ns.reverse ++ before) fuel
    | .missed _ => return (before.reverse, place)
termination_by structural fuel => fuel

/-- Read a row of parts behind the nodes before, which are in reverse. -/
def readRow (row : Array Token) (diagnosing : Bool) (level place : Nat) (parts : List Form)
    (before : List Node) (isFinal : Bool) : Nat → Reader Outcome
  | 0 => return .missed isFinal
  | fuel + 1 => do
    match parts with
    | [] => return .read before.reverse place
    | .cut :: more => readRow row diagnosing level place more before true fuel
    | p :: more =>
      match ← readPart row diagnosing level place p fuel with
      | some (n, q) => readRow row diagnosing level q more (n.toList ++ before) isFinal fuel
      | none => return .missed isFinal
termination_by structural fuel => fuel

/-- Read the first of several rows that fits. A row that is a misuse alone counts only where misuses
are looked for. -/
def readRows (row : Array Token) (diagnosing : Bool) (level place : Nat) (rows : List (List Form)) :
    Nat → Reader (Option (List Node × Nat))
  | 0 => return none
  | fuel + 1 => do
    match rows with
    | [] => return none
    | [.misuse m] :: more =>
      if diagnosing then readMisuse row diagnosing level place m fuel
      readRows row diagnosing level place more fuel
    | parts :: more =>
      match ← readRow row diagnosing level place parts [] false fuel with
      | .read ns q => return some (ns, q)
      | .missed true => return none
      | .missed false => readRows row diagnosing level place more fuel
termination_by structural fuel => fuel

/-- Read by a rule. -/
def readRule (row : Array Token) (diagnosing : Bool) (level place : Nat) (r : Rule) :
    Nat → Reader (Option (Node × Nat))
  | 0 => return none
  | fuel + 1 => do
    enter level
    let s ← get
    match if r.isKept then s.kept[keptAt r place]? else none with
    | some (n, q) => return n.map fun n => (n, q)
    | none =>
      if r.growsLeft then grow row diagnosing (level + 1) place r none place fuel
      else
        let diagnosing := diagnosing && r != .plainExpression
        let start := (row.getD place default).place
        let result ← match ← readRows row diagnosing (level + 1) place r.forms fuel with
          | none => pure none
          | some (ns, q) => do
            let n ← if r = .texts then readTexts row start ns fuel else pure (.ofRule r start ns)
            match numberFault? r n with
            | some f => throw (.grammar f)
            | none => pure (some (n, q))
        if r.isKept then keep (keptAt r place) (result.map (·.1)) ((result.map (·.2)).getD place)
        return result
termination_by structural fuel => fuel

/-- Read by a rule that may start with itself: go on as long as more is read. -/
def grow (row : Array Token) (diagnosing : Bool) (level place : Nat) (r : Rule)
    (best : Option Node) (behind : Nat) : Nat → Reader (Option (Node × Nat))
  | 0 => return none
  | fuel + 1 => do
    keep (keptAt r place) best behind
    enter level
    match ← readRows row diagnosing (level + 1) place r.forms fuel with
    | some (ns, q) =>
      if behind < q then
        let n := Node.ofRule r (row.getD place default).place ns
        grow row diagnosing level place r (some n) q fuel
      else return best.map fun n => (n, behind)
    | none => return best.map fun n => (n, behind)
termination_by structural fuel => fuel

/-- Look for the wrong forms of a misuse. -/
def readMisuse (row : Array Token) (diagnosing : Bool) (level place : Nat) (m : Misuse) :
    Nat → Reader Unit
  | 0 => return
  | fuel + 1 => do
    enter level
    if m.isKept && (← get).kept.contains (keptMisuse place) then return
    readWrongForms row diagnosing (level + 1) place (wrongForms m) fuel
    if m.isKept then keep (keptMisuse place) none place
termination_by structural fuel => fuel

/-- Look for wrong forms. The first one that fits decides. -/
def readWrongForms (row : Array Token) (diagnosing : Bool) (level place : Nat)
    (forms : List WrongForm) : Nat → Reader Unit
  | 0 => return
  | fuel + 1 => do
    match forms with
    | [] => return
    | w :: more =>
      match ← readRow row diagnosing level place w.parts [] false fuel with
      | .read ns q =>
        let seen : Seen := ⟨ns, ← reachedLine row, (row.getD (q - 1) default).depth⟩
        match w.line seen with
        | some line => throw (.grammar ⟨w.cause, line⟩)
        | none => return
      | .missed _ => readWrongForms row diagnosing level place more fuel
termination_by structural fuel => fuel

/-- The node of texts that stand one after the other. -/
def readTexts (row : Array Token) (start : Position) (leaves : List Node) : Nat → Reader Node
  | 0 => return default
  | fuel + 1 => do
    let texts := ((Node.row leaves).spread fun _ => false).filterMap fun n => match n with
      | .leaf ⟨.text t, p, _⟩ => some (t, p.line)
      | _ => none
    match textNode (fun ts => readTokens ts.toArray .formatted fuel) (← reachedLine row) start texts with
    | .ok n => return n
    | .error f => throw (.grammar f)
termination_by structural fuel => fuel

/-- Read a whole row of tokens by a rule. -/
def readTokens (row : Array Token) (r : Rule) : Nat → Except SourceFault Node
  | 0 => .error ⟨.tooComplex, 0⟩
  | fuel + 1 =>
    match (readRule row false 0 0 r fuel).run {} with
    | .ok (some (n, _)) _ => .ok n
    | .error stop s => .error (stop.fault row s.reached)
    | .ok none first =>
      match (readRule row true 0 0 r fuel).run { reached := first.reached } with
      | .error stop s => .error (stop.fault row s.reached)
      | .ok _ s => .error (unexplained row first.reached s.reached)
termination_by structural fuel => fuel

end

end ArchModel.Source.Grammar
