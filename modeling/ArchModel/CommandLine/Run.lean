import ArchModel.Analysis.Workspace
import ArchModel.CommandLine.Invocation

/-!
# Runs of the program

A run reads a file tree, prints a report or saves it, and tells what it did. It is a function of its
host, of the tree, of the directory it starts in and of its command line.

* `Invocation.analyze` is the analysis that an invocation asks for.
* `runProgram` is the run as a whole; `RunFailure` says why a run breaks off.
-/

namespace ArchModel

open Text

/-- What a run leaves behind. -/
structure ProgramOutcome where
  /-- The exit status. -/
  status : Nat := 0
  /-- What is printed. -/
  output : String := ""
  /-- What is printed beside it: records and errors. -/
  errors : String := ""
  /-- The file that is saved. -/
  saved : Option (Path × String) := none
  deriving DecidableEq, Repr, Inhabited

/-- Why a run breaks off. -/
inductive RunFailure
  /-- A file cannot be read, or a value in it is of no use. -/
  | analysis (failure : AnalysisFailure)
  /-- The report cannot be saved. -/
  | save (error : FileError)
  /-- The mark behind which all arguments are plain stands for the file for the report. -/
  | noFile
  deriving DecidableEq, Repr

/-- What an analysis is reported by. -/
structure AnalysisReport where
  report : Json
  /-- The number of relations with problems. -/
  problems : Nat
  deriving Inhabited

/-- The outcome of a run for another form of its result. -/
def RunOutcome.map {α β : Type} (f : α → β) (o : RunOutcome α) : RunOutcome β :=
  ⟨o.records, o.result.map f⟩

/-- The analysis that is asked for in a directory. -/
def Invocation.analyze (i : Invocation) (host : Host) (t : Tree) (dir : Path) :
    RunOutcome AnalysisReport :=
  let p := WrittenPath.ofText dir i.path
  match i.command with
  | .container =>
    (analyzeContainerAt host t i.options p).map fun a => ⟨a.report i.options, a.problems⟩
  | .workspace =>
    (analyzeWorkspaceAt host t i.options p).map fun a => ⟨a.report i.options, a.problems⟩

/-- The text of a path for somebody in a directory: what leads down from there, or the full path. -/
def Path.shownFrom (p dir : Path) : String :=
  match p.below? dir with
  | some [] => "."
  | some names => Text.join "/" names
  | none => p.text

/-- What is said of a line that is no invocation. -/
def Stop.outcome : Stop → ProgramOutcome
  | .help form => { output := form.help }
  | .fault form f =>
    { status := 2
      errors := form.usage ++ form.program ++ ": error: " ++ f.message ++ "\n" }

namespace Invocation

/-- What is told of records. -/
def told (i : Invocation) (records : List LogRecord) : String :=
  let s : LogSetup := { threshold := LogLevel.threshold i.verbose }
  String.join ((s.consoleLines records).map (· ++ "\n"))

/-- What is told of a report: how many relations have problems. -/
def problemRecords (r : AnalysisReport) : List LogRecord :=
  if r.problems = 0 then []
  else [⟨"cli", .warning, "Found " ++ toString r.problems ++
    " relation problem(s); see the report for details"⟩]

/-- Print a report, or save it. -/
def deliver (i : Invocation) (t : Tree) (dir : Path) (told : String) (r : AnalysisReport) :
    Except RunFailure ProgramOutcome :=
  let text := r.report.pretty ++ "\n"
  match i.output with
  | none => .ok { output := text, errors := told }
  | some name =>
    if name = Argument.separatorText then .error .noFile
    else
    let p := dir.join name
    match t.save p text.toUTF8.toList with
    | .error e => .error (.save e)
    | .ok _ => .ok
      { output := "Model written to " ++ p.resolve.shownFrom dir ++ "\n"
        errors := told
        saved := some (p.resolve, text) }

/-- The run of an invocation. -/
def run (i : Invocation) (host : Host) (t : Tree) (dir : Path) :
    Except RunFailure ProgramOutcome :=
  let done := i.analyze host t dir
  match done.result with
  | .ok r => i.deliver t dir (i.told (done.records ++ problemRecords r)) r
  | .error (.load (.config e)) => .ok
    { status := 1
      errors := i.told done.records ++ "Configuration error: " ++ e.text ++ "\n" }
  | .error (.model e) => .ok
    { status := 1
      errors := i.told done.records ++ programName ++ " " ++ i.command.word ++ " failed: " ++
        e.text ++ "\n" }
  | .error f => .error (.analysis f)

end Invocation

/-- The run of the program in a directory. -/
def runProgram (host : Host) (t : Tree) (dir : Path) (line : List String) :
    Except RunFailure ProgramOutcome :=
  match Invocation.ofArguments line with
  | .ok i => i.run host t dir
  | .error stop => .ok stop.outcome

end ArchModel
