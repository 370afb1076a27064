import ArchModel.Log.Record
import ArchModel.Validation.Context
import ArchModel.Validation.Result

/-!
# Reconciling declared relations with usage

* `ReconcileContext.check` compares one declared relation with the observed usage.
* `undeclaredResults` finds the pairs of components that use each other without saying so.
* `reconcile` does both; `applyTags` adds the tags that the results suggest.
-/

namespace ArchModel

namespace ReconcileContext

/-- Whether a relation carries the tags of both kinds. -/
def hasBothKinds (r : Relation) : Bool := r.tags.contains directTag && r.tags.contains indirectTag

/-- The verdict on the usage of one component by another: by their own evidence, or else indirect if
one reaches the other through the methods of others. -/
def verdict (usage : UsageIndex) (source target : String) : Option Classification :=
  match classify (usage.between source target) with
  | some c => some c
  | none => (usage.reached source target).head?.map fun e => ⟨.indirect, e⟩

/-- The outcome for a relation that its verdict settles. A relation that carries the tags of both
kinds is given no further one. -/
def settle (r : Relation) (both : List RelationFault) (c : Classification) : RelationResult :=
  let place := c.evidence.location
  let wrong := both.isEmpty && r.tags.contains c.kind.opposite.tag
  { relation := r
    targetExists := true
    isUsed := true
    usageLocation := some place
    faults := both ++ if wrong then [.wrongKind c.kind place] else []
    classification := some c
    inferredTags :=
      if both.isEmpty && !wrong && !r.tags.contains c.kind.tag then [c.kind.tag] else [] }

/-- Compare a declared relation with the observed usage, `names` being the names of the
components. -/
def check (x : ReconcileContext) (names : List String) (usage : UsageIndex) (r : Relation) :
    RelationResult :=
  let both : List RelationFault := if hasBothKinds r then [.bothKinds] else []
  if !names.contains r.source then
    { relation := r, targetExists := names.contains r.target || x.declares r.target
      isUsed := false, faults := both ++ [.missingSource] }
  else if x.trusts r.target then
    { relation := r, targetExists := true, isUsed := true, faults := both }
  else if !names.contains r.target then
    { relation := r, targetExists := false, isUsed := false, faults := both ++ [.missingTarget] }
  else
    match verdict usage r.source r.target with
    | some c => settle r both c
    | none =>
      { relation := r, targetExists := true, isUsed := false, faults := both ++ [.unused] }

end ReconcileContext

/-- The description of a relation that nobody declared. -/
def undeclaredDescription : String := "Undeclared relationship"

/-- The outcome for a pair of components with evidence but no declared relation. -/
def undeclaredResult (source target : String) (c : Classification) : RelationResult :=
  let place := c.evidence.location
  { relation :=
      { source, target, description := undeclaredDescription, location := place
        tags := [undeclaredTag, c.kind.tag] }
    targetExists := true
    isUsed := true
    usageLocation := some place
    faults := [.undeclared place]
    classification := some c
    undeclared := true }

/-- The pairs of different components that have evidence but no declared relation. What a component
only reaches through the methods of others does not count. -/
def undeclaredResults (components : List Component) (usage : UsageIndex) : List RelationResult :=
  let names := Component.names components
  let declared := (Component.allRelations components).map fun r => (r.source, r.target)
  usage.pairs.filterMap fun (source, target) =>
    if source = target || declared.contains (source, target) || !names.contains source ||
        !names.contains target then none
    else (classify (usage.between source target)).map (undeclaredResult source target)

/-- The outcomes for the declared relations of components, in order. -/
def declaredResults (x : ReconcileContext) (components : List Component) (usage : UsageIndex) :
    List RelationResult :=
  (Component.allRelations components).map (x.check (Component.names components) usage)

/-- The outcomes for the declared relations and, if wanted, for those that nobody declared. -/
def reconcile (x : ReconcileContext) (components : List Component) (usage : UsageIndex)
    (includeUndeclared : Bool) : List RelationResult :=
  declaredResults x components usage ++
    if includeUndeclared then undeclaredResults components usage else []

/-- What the log says of outcomes. -/
def reconcileRecords (results : List RelationResult) : List LogRecord :=
  let undeclared := (results.filter (·.undeclared)).length
  let problems := (results.filter (·.hasProblems)).length
  (if undeclared = 0 then [] else [⟨"validators.reconciler", .warning,
    "Found " ++ toString undeclared ++ " undeclared relation(s)"⟩]) ++
  [⟨"validators.reconciler", .info, "Reconciled " ++ toString results.length ++ " relations (" ++
    toString problems ++ " with problems)"⟩]

/-! ## Inferred tags -/

/-- The outcomes with the relations tagged as they suggest. -/
def applyTags (results : List RelationResult) : List RelationResult :=
  results.map fun r => { r with relation := r.tagged }

/-- The number of tags that the relations get. -/
def addedTags (results : List RelationResult) : Nat := (results.flatMap (·.newTags)).length

/-- What the log says of the tags that the relations get. -/
def tagRecords (results : List RelationResult) : List LogRecord :=
  results.flatMap fun r => r.newTags.map fun tag => ⟨"validators.reconciler", .debug,
    "Tagged relation " ++ r.relation.source ++ " -> " ++ r.relation.target ++ " as " ++ tag⟩

/-- The components with other relations in the place of theirs, in order. -/
def Component.withRelations : List Component → List Relation → List Component
  | [], _ => []
  | c :: cs, rs =>
    { c with relations := rs.take c.relations.length } ::
      withRelations cs (rs.drop c.relations.length)

/-- The components with their relations tagged as the outcomes for them suggest. -/
def tagComponents (components : List Component) (results : List RelationResult) :
    List Component :=
  Component.withRelations components (results.map (·.tagged))

end ArchModel
