import ArchModel.Analysis.Container
import ArchModel.Proofs.Usage.Summary
import ArchModel.Proofs.Validation.Undeclared

/-!
# The evidence for relations that nobody declared

* `filter_undeclared_reconcile`: of the results of reconciliation, those for relations that nobody
  declared are what is found for the pairs of the index.
* `flatMap_undeclared_perm`: their evidence, pair by pair, is the evidence of their pairs.
* **`ContainerAnalysis.undeclaredSummary_reconcile`**: its summary has the rows of these pairs as
  they stand in the summary of the whole index.
-/

namespace ArchModel

section results

variable (x : ReconcileContext) (cs : List Component) (usage : UsageIndex)

theorem filter_undeclared_reconcile :
    (reconcile x cs usage true).filter (·.undeclared) = undeclaredResults cs usage := by
  have none : (declaredResults x cs usage).filter (·.undeclared) = [] :=
    List.filter_eq_nil_iff.2 fun r hr => Bool.not_eq_true _ ▸ (mem_declaredResults hr).1
  have all : (undeclaredResults cs usage).filter (·.undeclared) = undeclaredResults cs usage :=
    List.filter_eq_self.2 fun r hr => (mem_undeclaredResults hr).1
  rw [reconcile, if_pos rfl, List.filter_append, none, all, List.nil_append]

theorem filter_undeclared_applyTags (results : List RelationResult) :
    ((applyTags results).filter (·.undeclared)).map (·.relation.pair) =
      (results.filter (·.undeclared)).map (·.relation.pair) := by
  rw [applyTags, List.filter_map, List.map_map]
  rfl

end results

/-- The evidence for relations that nobody declared, pair by pair, is the evidence of the pairs. -/
theorem flatMap_undeclared_perm (cs : List Component) (steps : List UsageStep)
    {test : String × String → Bool} (h : ∀ p, test p = true ↔
      p ∈ (undeclaredResults cs (.ofSteps steps)).map (·.relation.pair)) :
    ((undeclaredResults cs (.ofSteps steps)).flatMap fun r =>
      (UsageIndex.ofSteps steps).between r.relation.source r.relation.target).Perm
      ((UsageIndex.ofSteps steps).evidence.filter fun e => test e.pair) := by
  have distinct : ((undeclaredResults cs (.ofSteps steps)).map (·.relation.pair)).Nodup :=
    (UsageIndex.nodup_pairs steps).sublist sublist_undeclaredResults
  have parted := flatMap_filter_perm Evidence.pair distinct (UsageIndex.ofSteps steps).evidence
    fun e _ => h e.pair
  rw [List.flatMap_map] at parted
  refine (List.Perm.of_eq (List.flatMap_congr fun r _ => ?_)).trans parted
  exact UsageIndex.between_eq_filter_pair steps r.relation.pair

namespace ContainerAnalysis

theorem undeclaredSummary_congr {a b : ContainerAnalysis} (usage : a.usage = b.usage)
    (pairs : a.undeclared.map (·.relation.pair) = b.undeclared.map (·.relation.pair)) :
    a.undeclaredSummary = b.undeclaredSummary := by
  have each (c : ContainerAnalysis) : c.undeclaredSummary = summarizeUsage
      ((c.undeclared.map (·.relation.pair)).flatMap fun p => c.usage.between p.1 p.2) := by
    rw [List.flatMap_map]
    rfl
  rw [each, each, usage, pairs]

/-- **The summary of what nobody declared.** The summary of the evidence for relations that nobody
declared has the rows of their pairs, as they stand in the summary of the whole index. So their
counts add up to the number of pieces of evidence of these pairs; and the evidence that the summary
is made from, result by result, is the evidence of these pairs, each piece once. The tags that the
results give to the relations make no difference. -/
theorem undeclaredSummary_reconcile (a : ContainerAnalysis) (x : ReconcileContext)
    (cs : List Component) (steps : List UsageStep) :
    let usage := UsageIndex.ofSteps steps
    let results := reconcile x cs usage true
    let undeclared := results.filter (·.undeclared)
    let pairs := undeclared.map fun r => (r.relation.source, r.relation.target)
    let summary := { a with results, usage : ContainerAnalysis }.undeclaredSummary
    summary = usage.summarize.filter (fun row => (row.source, row.target) ∈ pairs) ∧
    (summary.map (·.count)).sum =
      (usage.evidence.filter fun e => (e.source, e.target) ∈ pairs).length ∧
    (undeclared.flatMap fun r => usage.between r.relation.source r.relation.target).Perm
      (usage.evidence.filter fun e => (e.source, e.target) ∈ pairs) ∧
    { a with results := applyTags results, usage : ContainerAnalysis }.undeclaredSummary =
      summary := by
  intro usage results undeclared pairs summary
  have found : undeclared = undeclaredResults cs usage := filter_undeclared_reconcile x cs usage
  have parted : (undeclared.flatMap fun r =>
      usage.between r.relation.source r.relation.target).Perm
      (usage.evidence.filter fun e => (e.source, e.target) ∈ pairs) := by
    have listed (p : String × String) : decide (p ∈ pairs) = true ↔
        p ∈ (undeclaredResults cs usage).map (·.relation.pair) := by
      rw [decide_eq_true_iff, ← found]
      rfl
    rw [found]
    exact flatMap_undeclared_perm cs steps listed
  have counted : summary = summarizeUsage
      (usage.evidence.filter fun e => (e.source, e.target) ∈ pairs) := summarizeUsage_perm parted
  refine ⟨counted.trans ?_, ?_, parted, ?_⟩
  · exact summarizeUsage_filter (fun k => (k.1, k.2.1) ∈ pairs) usage.evidence
  · rw [counted, sum_summarizeUsage]
  · exact undeclaredSummary_congr rfl (filter_undeclared_applyTags results)

end ContainerAnalysis

end ArchModel
