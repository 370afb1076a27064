import ArchModel.Analysis.Container

/-!
# The analysis of a workspace

The containers of a workspace are analysed one by one. Then their relations to each other are
looked at by name.

* `analyzeWorkspace` fails if the containers have repeated names, and with the first container that
  fails.
* `WorkspaceAnalysis.report` is the model in reports.
-/

namespace ArchModel

/-- Everything that was learned about a workspace. -/
structure WorkspaceAnalysis where
  config : WorkspaceConfig
  containers : List ContainerAnalysis
  /-- The links between the containers. -/
  relations : List ContainerLink
  /-- The relations into other containers that lead to nothing. -/
  issues : List CrossScopeIssue
  deriving Inhabited

namespace WorkspaceAnalysis

/-- The number of relations with problems in the containers. -/
def relationProblems (a : WorkspaceAnalysis) : Nat :=
  a.containers.foldl (fun n c => n + c.problems) 0

/-- The number of relations with problems in the containers and between them. -/
def problems (a : WorkspaceAnalysis) : Nat := a.relationProblems + a.issues.length

/-- The form in reports. -/
def report (o : AnalysisOptions) (a : WorkspaceAnalysis) : Json := .object
  [("name", .text a.config.name), ("description", .text a.config.description),
    ("containers", .ofList (ContainerAnalysis.report o) a.containers),
    ("relations", .ofList ContainerLink.report a.relations),
    ("issues", .ofList CrossScopeIssue.report a.issues)]

end WorkspaceAnalysis

/-- The names that occur more than once, in order. -/
def repeatedNames (names : List String) : List String :=
  (dedupe (names.filter fun n => 1 < names.count n)).mergeSort Text.inOrder

/-- The error for issues between containers. -/
def issuesError (config : WorkspaceConfig) (issues : List CrossScopeIssue) : ModelError where
  message := "Workspace \"" ++ config.name ++ "\" has " ++ toString issues.length ++
    " unresolved cross-container relation(s): " ++
    Text.join "; " (issues.map CrossScopeIssue.message)

/-- Join the analyses of the containers of a workspace. -/
def joinContainers (options : AnalysisOptions) (config : WorkspaceConfig)
    (containers : List ContainerAnalysis) : RunOutcome WorkspaceAnalysis :=
  let scopes := containers.map ContainerAnalysis.scope
  let issues := crossScopeIssues scopes
  let told := issues.map CrossScopeIssue.record
  if options.strict && !issues.isEmpty then ⟨told, .error (.model (issuesError config issues))⟩
  else
    let relations := containerLinks scopes
    ⟨told ++ [linkRecord relations], .ok { config, containers, relations, issues }⟩

/-- Analyse the containers of a workspace, whose configurations are loaded. -/
def analyzeContainers (t : Tree) (options : AnalysisOptions) (config : WorkspaceConfig)
    (containers : List ContainerConfig) : RunOutcome WorkspaceAnalysis :=
  let names := containers.map (·.name)
  let outcomes := containers.map fun c => analyzeContainer t options c names
  let told := outcomes.flatMap (·.records)
  match outcomes.mapM (·.result) with
  | .error f => ⟨told, .error f⟩
  | .ok analyses =>
    let joined := joinContainers options config analyses
    ⟨told ++ joined.records, joined.result⟩

/-- Analyse a workspace. The number of workers, if it is given, must be positive; the result does
not depend on it. -/
def analyzeWorkspace (host : Host) (t : Tree) (options : AnalysisOptions) (config : WorkspaceConfig)
    (workers : Option Int := none) : RunOutcome WorkspaceAnalysis :=
  match config.containers.mapM fun p => loadContainer host t (.ofPath p) with
  | .error f => ⟨[], .error (.load f)⟩
  | .ok containers =>
    match repeatedNames (containers.map (·.name)) with
    | [] =>
      let start : LogRecord := ⟨"orchestrator", .info, "Analysing workspace " ++ config.name ++
        " with " ++ toString containers.length ++ " containers"⟩
      if workers.any (· ≤ 0) then ⟨[start], .error .noWorkers⟩
      else
        let done := analyzeContainers t options config containers
        ⟨start :: done.records, done.result⟩
    | repeated => ⟨[], .error (.load (.config
        { problem := .repeatedContainers
          faults := repeated.map .repeatedContainer
          path := some config.root }))⟩

/-- Analyse the workspace whose configuration is at a path. -/
def analyzeWorkspaceAt (host : Host) (t : Tree) (options : AnalysisOptions) (p : WrittenPath)
    (workers : Option Int := none) : RunOutcome WorkspaceAnalysis :=
  match loadWorkspace host t p with
  | .ok config => analyzeWorkspace host t options config workers
  | .error f => ⟨[], .error (.load f)⟩

end ArchModel
