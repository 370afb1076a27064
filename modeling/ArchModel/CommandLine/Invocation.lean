import ArchModel.Analysis.Container
import ArchModel.CommandLine.Argument

/-!
# Invocations

* `ArgumentForm.read` reads the arguments of one form.
* `Invocation.ofArguments` reads a command line: the flags of the program, a command, and the
  arguments of the command. `Stop` says why there is no invocation.
-/

namespace ArchModel

open Text

/-- Why a command line is no invocation. -/
inductive Stop
  /-- Help is asked for. -/
  | help (form : ArgumentForm)
  | fault (form : ArgumentForm) (fault : UsageFault)
  deriving DecidableEq, Repr

/-- What was read of a line. -/
structure Reading where
  settings : List Setting := []
  /-- The command or the path. -/
  operand : Option String := none
  /-- The arguments behind a command. -/
  behind : List String := []
  /-- The arguments that have no place. -/
  extras : List String := []
  deriving DecidableEq, Repr, Inhabited

namespace ArgumentForm

/-- Whether help is among the flags of an argument. -/
def asksHelp (e : Expansion) : Bool := e.settings.any (·.flag = .help)

/-- Take a flag, and the next argument if it is to be the value of the flag. -/
def takeFlag (f : ArgumentForm) (r : Reading) (g : GivenFlag) (next : Option Argument) :
    Except Stop (Reading × Bool) := do
  let e ← (f.expand g).mapError (Stop.fault f)
  let (value, used) ← match e.awaiting, next with
    | none, _ => pure ([], false)
    | some flag, some (.plain s) => pure ([⟨flag, some s⟩], true)
    | some flag, _ => throw (.fault f (.valueMissing flag))
  if asksHelp e then throw (.help f)
  return ({ r with settings := r.settings ++ e.settings ++ value }, used)

/-- Read the arguments of a command: one of them may be a path. The mark in front of the path or
behind it is left out. -/
def readPath (f : ArgumentForm) (r : Reading) : List Argument → Except Stop Reading
  | [] => .ok r
  | .unknown s :: rest => f.readPath { r with extras := r.extras ++ [s] } rest
  | .flag _ g :: rest =>
    match f.takeFlag r g rest.head? with
    | .error stop => .error stop
    | .ok (r, used) => f.readPath r (if used then rest.tail else rest)
  | .plain s :: rest =>
    if r.operand.isSome then f.readPath { r with extras := r.extras ++ [s] } rest
    else
      f.readPath { r with operand := some s }
        (if rest.head? = some .separator then rest.tail else rest)
  | .separator :: rest =>
    if r.operand.isSome then
      f.readPath { r with extras := r.extras ++ [Argument.separatorText] } rest
    else f.readPath r rest
termination_by as => as.length
decreasing_by all_goals (try split) <;> simp only [List.length_cons, List.length_tail] <;> omega

/-- Read the arguments of the program as a whole: flags, and a command with all that stands behind
it. A mark in front of a word takes the place of the command. -/
def readCommand (f : ArgumentForm) (r : Reading) : List Argument → Except Stop Reading
  | [] => .ok r
  | .unknown s :: rest => f.readCommand { r with extras := r.extras ++ [s] } rest
  | .flag _ g :: rest =>
    match f.takeFlag r g rest.head? with
    | .error stop => .error stop
    | .ok (r, used) => f.readCommand r (if used then rest.tail else rest)
  | .plain s :: rest => .ok { r with operand := some s, behind := rest.map Argument.text }
  | .separator :: rest =>
    if rest.isEmpty then .ok { r with extras := r.extras ++ [Argument.separatorText] }
    else .ok
      { r with operand := some Argument.separatorText, behind := rest.map Argument.text }
termination_by as => as.length
decreasing_by all_goals (try split) <;> simp only [List.length_cons, List.length_tail] <;> omega

/-- Read the texts of a line. -/
def read (f : ArgumentForm) (line : List String) : Except Stop Reading :=
  match f.classifyAll line, f.operand with
  | .error fault, _ => .error (.fault f fault)
  | .ok as, .command => f.readCommand {} as
  | .ok as, .path => f.readPath {} as

end ArgumentForm

namespace Reading

/-- Whether a flag is set. -/
def sets (r : Reading) (flag : Flag) : Bool := r.settings.any (·.flag = flag)

/-- The value of a flag; the last one counts. -/
def value? (r : Reading) (flag : Flag) : Option String :=
  ((r.settings.filter (·.flag = flag)).getLast?).bind (·.value)

/-- The options of the analysis. -/
def options (r : Reading) : AnalysisOptions where
  includeUndeclared := r.sets .includeUndeclared
  includeInvalid := r.sets .includeInvalid
  invalidOnly := r.sets .invalidOnly
  strict := r.sets .strict

end Reading

/-- What the program is asked to do. -/
structure Invocation where
  command : Command
  /-- The configuration, or the directory that holds it. -/
  path : String := "."
  options : AnalysisOptions := {}
  /-- Whether everything is told. -/
  verbose : Bool := false
  /-- The file for the report. -/
  output : Option String := none
  deriving DecidableEq, Repr, Inhabited

/-- The invocation that a command line is. -/
def Invocation.ofArguments (line : List String) : Except Stop Invocation := do
  let top ← ArgumentForm.top.read line
  let fail := fun fault => Stop.fault ArgumentForm.top fault
  let some word := top.operand | throw (fail .commandMissing)
  let some command := Command.ofWord? word | throw (fail (.unknownCommand word))
  let own ← command.form.read top.behind
  let extras := top.extras ++ own.extras
  if !extras.isEmpty then throw (fail (.unrecognized extras))
  return {
    command
    path := own.operand.getD "."
    options := own.options
    verbose := top.sets .verbose || own.sets .verbose
    output := own.value? .output }

end ArchModel
