import ArchModel.Config.Load
import ArchModel.Extraction.Scope
import ArchModel.Files.Selection
import ArchModel.Group.Tree
import ArchModel.Usage.Match
import ArchModel.Validation.Reconcile
import ArchModel.Validation.Rules
import ArchModel.Workspace.Links

/-!
# The analysis of a container

The analysis goes through stages: select the sources, load them, extract the components, drop the
relations that are declared twice, check the rules, look for usage, and compare the declared
relations with it.

* `ContainerStages` are the results of the stages. None of them fails.
* `ContainerStages.analysis` is the analysis of the container: it fails if a component is in a group
  that is not configured and, if the options say so, for whatever was found to be wrong.
* `ContainerAnalysis.report` is the model in reports.
-/

namespace ArchModel

/-- What a run reports, and whether it fails for what is wrong in a model. -/
structure AnalysisOptions where
  /-- Report the relations that nobody declared. -/
  includeUndeclared : Bool := false
  /-- Report the declared relations that have problems. -/
  includeInvalid : Bool := false
  /-- Report the relations that have problems and nothing else. -/
  invalidOnly : Bool := false
  /-- Fail if a declaration was passed over or a rule is broken. -/
  strict : Bool := false
  deriving DecidableEq, Repr, Inhabited

/-- Why an analysis fails. -/
inductive AnalysisFailure
  /-- There is no configuration, or it does not fit the sources. -/
  | load (failure : LoadFailure)
  /-- The model is refused. -/
  | model (error : ModelError)
  /-- A file or an annotation holds a text that is never looked into. -/
  | source (fault : Source.SourceFault)
  /-- There is nobody to do the work. -/
  | noWorkers
  deriving DecidableEq, Repr

/-- What comes of a run: what it tells, and its result. -/
structure RunOutcome (α : Type) where
  records : List LogRecord
  result : Except AnalysisFailure α

/-- The results of the stages of an analysis. -/
structure ContainerStages where
  config : ContainerConfig
  /-- The files that are analysed. -/
  sources : List Path
  program : Program
  extraction : Extraction
  /-- The components without the relations that are declared twice. -/
  components : List Component
  /-- The relations that are declared twice. -/
  repeated : List RuleBreach
  /-- The breaches of rules by the components. -/
  breaches : List RuleBreach
  usage : UsageMatch
  /-- The outcomes for relations. -/
  results : List RelationResult
  deriving Inhabited

/-- Everything that was learned about a container. -/
structure ContainerAnalysis where
  config : ContainerConfig
  /-- The components. Their relations carry the tags that were inferred. -/
  components : List Component
  results : List RelationResult
  groups : List GroupNode
  usage : UsageIndex
  diagnostics : List Diagnostic
  violations : List Violation
  deriving Inhabited

namespace ContainerStages

/-- Go through the stages for a container among the containers of a workspace. -/
def run (t : Tree) (config : ContainerConfig) (containers : List String) : ContainerStages :=
  let sources := selectSources t config.root config.source
  let program := Program.load t (some config.root) sources
  let extraction := program.extract ⟨config.groups, config.policy⟩
  let (components, repeated) := dropDuplicates extraction.components
  let usage := matchUsage program defaultMaxDepth components
  { config, sources, program, extraction, components, repeated
    breaches := checkModel components
    usage
    results := reconcile (.ofConfig config containers) components usage.index true }

/-- The violations: the relations that are declared twice, then the breaches of rules. -/
def violations (s : ContainerStages) : List Violation :=
  (s.repeated ++ s.breaches).map RuleBreach.violation

/-- The groups of the components. -/
def groups (s : ContainerStages) : Except ConfigError (List GroupNode) :=
  buildGroups s.components s.config.groups s.config.policy

/-- What the log says of the stages. -/
def records (s : ContainerStages) : List LogRecord :=
  [⟨"orchestrator", .info,
      "Analysing container " ++ s.config.name ++ " (" ++ s.config.root.text ++ ")"⟩,
    ⟨"sources", .debug, "Selected " ++ toString s.sources.length ++ " source files under " ++
      s.config.root.text⟩] ++
  s.program.records ++ s.extraction.records ++ ruleRecords s.components ++ s.usage.records ++
  reconcileRecords s.results ++ tagRecords s.results ++
  [⟨"orchestrator", .debug, "Inferred " ++ toString (addedTags s.results) ++ " relation tags"⟩] ++
  match s.groups with
  | .ok gs => [groupRecord gs]
  | .error _ => []

/-- The analysis of the container. -/
def analysis (s : ContainerStages) (options : AnalysisOptions) :
    Except AnalysisFailure ContainerAnalysis := do
  if let some f := s.program.stopped.or s.usage.fault then throw (.source f)
  let groups ← s.groups.mapError fun e => AnalysisFailure.load (.config e)
  let diagnostics := s.extraction.diagnostics
  if options.strict && (!diagnostics.isEmpty || !s.violations.isEmpty) then
    throw (.model
      { message := "Container \"" ++ s.config.name ++ "\" failed validation"
        violations := s.violations
        diagnostics })
  return {
    config := s.config
    components := tagComponents s.components s.results
    results := applyTags s.results
    groups
    usage := s.usage.index
    diagnostics
    violations := s.violations }

end ContainerStages

/-- Analyse a container among the containers of a workspace. -/
def analyzeContainer (t : Tree) (options : AnalysisOptions) (config : ContainerConfig)
    (containers : List String := []) : RunOutcome ContainerAnalysis :=
  let s := ContainerStages.run t config containers
  ⟨s.records, s.analysis options⟩

/-- Analyse the container whose configuration is at a path. -/
def analyzeContainerAt (host : Host) (t : Tree) (options : AnalysisOptions) (p : WrittenPath)
    (containers : List String := []) : RunOutcome ContainerAnalysis :=
  match loadContainer host t p with
  | .ok config => analyzeContainer t options config containers
  | .error f => ⟨[], .error (.load f)⟩

namespace ContainerAnalysis

/-- The outcomes for declared relations. -/
def declared (a : ContainerAnalysis) : List RelationResult := a.results.filter (!·.undeclared)

/-- The outcomes for declared relations that have no problems. -/
def valid (a : ContainerAnalysis) : List RelationResult := a.declared.filter (!·.hasProblems)

/-- The outcomes for declared relations that have problems. -/
def invalid (a : ContainerAnalysis) : List RelationResult := a.declared.filter (·.hasProblems)

/-- The outcomes for relations that nobody declared. -/
def undeclared (a : ContainerAnalysis) : List RelationResult := a.results.filter (·.undeclared)

/-- The number of relations with problems. -/
def problems (a : ContainerAnalysis) : Nat := a.invalid.length + a.undeclared.length

/-- The counts of the evidence for relations that nobody declared. -/
def undeclaredSummary (a : ContainerAnalysis) : List UsageRow :=
  summarizeUsage (a.undeclared.flatMap fun r => a.usage.between r.relation.source r.relation.target)

/-- The scope of the container in its workspace. -/
def scope (a : ContainerAnalysis) : Scope := ⟨a.config, a.components⟩

/-- The parts of a report that describe the container. -/
def modelFields (a : ContainerAnalysis) : List (String × Json) :=
  [("description", .text a.config.description), ("technology", .ofText? a.config.technology),
    ("tags", .ofTexts a.config.tags), ("properties", .ofTextEntries a.config.properties),
    ("components", .ofList Component.report a.components),
    ("groups", .ofList GroupNode.report a.groups),
    ("relations", .ofList RelationResult.report a.valid)]

/-- The parts of a report on declared relations that have problems. -/
def invalidFields (a : ContainerAnalysis) : List (String × Json) :=
  [("invalidRelations", .ofList RelationResult.report a.invalid)]

/-- The parts of a report on relations that nobody declared. -/
def undeclaredFields (a : ContainerAnalysis) : List (String × Json) :=
  [("undeclaredRelations", .ofList RelationResult.report a.undeclared),
    ("undeclaredSummary", .ofList UsageRow.report a.undeclaredSummary)]

/-- The form in reports. -/
def report (o : AnalysisOptions) (a : ContainerAnalysis) : Json := .object
  (("name", .text a.config.name) ::
    (if o.invalidOnly then [] else a.modelFields) ++
    (if o.includeInvalid || o.invalidOnly then a.invalidFields else []) ++
    (if o.includeUndeclared || o.invalidOnly then a.undeclaredFields else []) ++
    [("diagnostics", .ofList Diagnostic.report a.diagnostics),
      ("violations", .ofList Violation.report a.violations)])

end ContainerAnalysis

end ArchModel
