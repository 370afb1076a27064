import ArchModel.Proofs.Usage.Steps
import ArchModel.Proofs.Validation.Results
import ArchModel.Proofs.Validation.Verdict

/-!
# Relations that nobody declared

* `Undeclared` holds of two components if one uses the other by evidence of its own and no relation
  says so. `mem_undeclaredResults_iff`: the results for relations that nobody declared are about
  these.
* `sublist_undeclaredResults`: they stand in the order of the pairs of the index.
* **`reconcile_ofSteps`**: what reconciliation lists for an index that was built step by step, and
  in which order.
-/

namespace ArchModel

/-- What a relation leads from and to. -/
def Relation.pair (r : Relation) : String × String := (r.source, r.target)

/-- One component uses another one by evidence of its own, and no relation says so. -/
structure Undeclared (components : List Component) (usage : UsageIndex) (source target : String) :
    Prop where
  apart : source ≠ target
  source_listed : source ∈ Component.names components
  target_listed : target ∈ Component.names components
  used : usage.between source target ≠ []
  silent : ∀ r ∈ Component.allRelations components, r.pair ≠ (source, target)

section undeclared

variable {components : List Component} {usage : UsageIndex} {source target : String}

/-- The conditions under which a pair is passed over. -/
theorem undeclared_iff : Undeclared components usage source target ↔
    usage.between source target ≠ [] ∧
      ¬(source = target ∨
        (source, target) ∈ (Component.allRelations components).map Relation.pair ∨
        source ∉ Component.names components ∨ target ∉ Component.names components) := by
  constructor
  · rintro ⟨apart, hs, ht, used, silent⟩
    refine ⟨used, ?_⟩
    rintro (rfl | declared | hs' | ht')
    · exact apart rfl
    · obtain ⟨r, hr, joined⟩ := List.mem_map.1 declared
      exact silent r hr joined
    · exact hs' hs
    · exact ht' ht
  · rintro ⟨used, kept⟩
    simp only [not_or, not_not] at kept
    obtain ⟨apart, silent, hs, ht⟩ := kept
    exact ⟨apart, hs, ht, used, fun r hr joined => silent (List.mem_map.2 ⟨r, hr, joined⟩)⟩

/-- The results for relations that nobody declared. -/
theorem mem_undeclaredResults_iff {u : RelationResult} :
    u ∈ undeclaredResults components usage ↔ ∃ source target c, (source, target) ∈ usage.pairs ∧
      Undeclared components usage source target ∧
      classify (usage.between source target) = some c ∧ u = undeclaredResult source target c := by
  rw [undeclaredResults, List.mem_filterMap]
  constructor
  · rintro ⟨⟨source, target⟩, listed, found⟩
    dsimp only at found
    split at found
    · cases found
    · next kept =>
      obtain ⟨c, verdict, rfl⟩ := Option.map_eq_some_iff.1 found
      have used : usage.between source target ≠ [] := fun none => by
        rw [classify_eq_none_iff.2 none] at verdict
        cases verdict
      refine ⟨source, target, c, listed, undeclared_iff.2 ⟨used, ?_⟩, verdict, rfl⟩
      simpa [Relation.pair, or_assoc] using kept
  · rintro ⟨source, target, c, listed, undeclared, verdict, rfl⟩
    refine ⟨(source, target), listed, ?_⟩
    dsimp only
    have kept := (undeclared_iff.1 undeclared).2
    rw [if_neg (by simpa [Relation.pair, or_assoc] using kept), verdict]
    rfl

/-- The results for relations that nobody declared stand in the order of the pairs. -/
theorem sublist_undeclaredResults :
    ((undeclaredResults components usage).map (·.relation.pair)).Sublist usage.pairs := by
  unfold undeclaredResults
  dsimp only
  generalize usage.pairs = pairs
  induction pairs with
  | nil => exact List.Sublist.slnil
  | cons p pairs ih =>
    rw [List.filterMap_cons]
    split
    · exact ih.cons p
    · next u found =>
      have about : u.relation.pair = p := by
        split at found
        · cases found
        · obtain ⟨c, -, rfl⟩ := Option.map_eq_some_iff.1 found
          rfl
      rw [List.map_cons, about]
      exact ih.cons_cons p

end undeclared

section steps

variable {components : List Component} {steps : List UsageStep} {source target : String}

/-- Each pair of components that use each other without saying so has a result. -/
theorem Undeclared.exists_result (h : Undeclared components (.ofSteps steps) source target) :
    ∃ c, classify ((UsageIndex.ofSteps steps).between source target) = some c ∧
      undeclaredResult source target c ∈ undeclaredResults components (.ofSteps steps) := by
  obtain ⟨c, verdict⟩ : ∃ c, classify ((UsageIndex.ofSteps steps).between source target) = some c :=
    Option.ne_none_iff_exists'.1 fun none => h.used (classify_eq_none_iff.1 none)
  exact ⟨c, verdict, mem_undeclaredResults_iff.2
    ⟨source, target, c, UsageIndex.mem_pairs_iff.2 h.used, h, verdict, rfl⟩⟩

theorem mem_map_undeclaredResults_iff :
    (source, target) ∈ (undeclaredResults components (.ofSteps steps)).map (·.relation.pair) ↔
      Undeclared components (.ofSteps steps) source target := by
  constructor
  · intro h
    obtain ⟨u, hu, about⟩ := List.mem_map.1 h
    obtain ⟨source', target', c, -, undeclared, -, rfl⟩ := mem_undeclaredResults_iff.1 hu
    obtain ⟨rfl, rfl⟩ := Prod.mk.inj about
    exact undeclared
  · intro undeclared
    obtain ⟨c, -, found⟩ := undeclared.exists_result
    exact List.mem_map.2 ⟨_, found, rfl⟩

end steps

/-- What reconciliation lists: the results for the declared relations in order, and then one for
each pair of components that use each other without saying so, in the order in which the pairs were
first given evidence. What components reach through others gives no result, and the tags of a
relation that nobody declared are those of its kind. -/
theorem reconcile_ofSteps (x : ReconcileContext) (components : List Component)
    (steps : List UsageStep) :
    let usage := UsageIndex.ofSteps steps
    let added := (steps.filterMap (·.evidence?)).map Evidence.pair
    ∃ declared undeclared, reconcile x components usage true = declared ++ undeclared ∧
      declared.map (·.relation) = components.flatMap (·.relations) ∧
      (∀ r ∈ declared, r.undeclared = false ∧
        r = x.check (Component.names components) usage r.relation) ∧
      (∀ source target, (source, target) ∈ undeclared.map (·.relation.pair) ↔
        Undeclared components usage source target) ∧
      (undeclared.map (·.relation.pair)).Pairwise (fun p q => added.idxOf p < added.idxOf q) ∧
      (∀ u ∈ undeclared, u.relation.pair ∈ added) ∧
      ∀ u ∈ undeclared, u.undeclared = true ∧ u.hasProblems = true ∧
        ∃ kind : RelationKind, u.classification.map (·.kind) = some kind ∧
          u.relation.tags = [undeclaredTag, kind.tag] ∧
          (kind = .direct ↔
            ∃ e ∈ usage.between u.relation.source u.relation.target, e.Holds) := by
  intro usage added
  refine ⟨declaredResults x components usage, undeclaredResults components usage, rfl,
    map_relation_declaredResults x components usage, fun r hr => mem_declaredResults hr,
    fun source target => mem_map_undeclaredResults_iff, ?_, fun u hu => ?_, fun u hu => ?_⟩
  · exact (UsageIndex.pairs_in_order steps).sublist sublist_undeclaredResults
  · have listed : u.relation.pair ∈ usage.pairs :=
      sublist_undeclaredResults.subset (List.mem_map_of_mem hu)
    rwa [UsageIndex.pairs_ofSteps, mem_dedupe, UsageIndex.evidence_ofSteps] at listed
  · obtain ⟨undeclared, problem⟩ := mem_undeclaredResults hu
    obtain ⟨source, target, c, -, -, verdict, rfl⟩ := mem_undeclaredResults_iff.1 hu
    exact ⟨undeclared, problem, c.kind, rfl, rfl, classify_kind verdict⟩

end ArchModel
