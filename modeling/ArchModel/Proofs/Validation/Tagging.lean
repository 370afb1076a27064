import ArchModel.Proofs.Validation.Undeclared

/-!
# Tagging relations as results suggest

* `RelationResult.Suggests`: a result suggests nothing, or the tag of one kind to a relation that
  carries the tag of neither.
* `ReconcileContext.check_tagged`: a relation with the tag that its result suggests gets the same
  result, which suggests nothing more.
* **`reconcile_tagComponents`**: after one round of tags nothing changes.
-/

namespace ArchModel

/-- Tags without that of the other kind stay so when the tag of a kind is added. -/
theorem RelationKind.not_both {kind : RelationKind} {tags : List String}
    (noOther : kind.opposite.tag ∉ tags) :
    ¬(directTag ∈ tags ++ [kind.tag] ∧ indirectTag ∈ tags ++ [kind.tag]) := by
  have apart : directTag ≠ indirectTag := by decide
  rintro ⟨direct, indirect⟩
  rw [List.mem_append, List.mem_singleton] at direct indirect
  cases kind with
  | direct => exact noOther (indirect.resolve_right apart.symm)
  | indirect => exact noOther (direct.resolve_right apart)

namespace RelationResult

/-- What a result suggests: nothing, or the tag of one kind to a relation that carries the tag of
neither. -/
def Suggests (r : RelationResult) : Prop :=
  r.inferredTags = [] ∨ ∃ kind : RelationKind, r.inferredTags = [kind.tag] ∧
    kind.tag ∉ r.relation.tags ∧ kind.opposite.tag ∉ r.relation.tags

/-- A later result tells the same of a relation that was tagged as the first one suggests, and
suggests nothing. -/
structure KeptBy (first again : RelationResult) : Prop where
  relation : again.relation = first.tagged
  targetExists : again.targetExists = first.targetExists
  isUsed : again.isUsed = first.isUsed
  usageLocation : again.usageLocation = first.usageLocation
  errors : again.errors = first.errors
  classification : again.classification = first.classification
  undeclared : again.undeclared = first.undeclared
  inferredTags : again.inferredTags = []

variable {r : RelationResult}

theorem tagged_of_nothing (h : r.inferredTags = []) : r.tagged = r.relation := by
  simp [tagged, newTags, h]

theorem newTags_of_kind {kind : RelationKind} (h : r.inferredTags = [kind.tag])
    (new : kind.tag ∉ r.relation.tags) : r.newTags = [kind.tag] := by
  simp [newTags, h, new]

/-- A relation that was tagged gets no further tags. -/
theorem newTags_tagged (r : RelationResult) : { r with relation := r.tagged }.newTags = [] := by
  refine List.filter_eq_nil_iff.2 fun tag suggested => ?_
  have carried : tag ∈ r.relation.tags ++ r.newTags := by
    by_cases old : tag ∈ r.relation.tags
    · exact List.mem_append_left _ old
    · exact List.mem_append_right _ (List.mem_filter.2 ⟨suggested, by simpa using old⟩)
  have kept : tag ∈ r.tagged.tags := carried
  simpa using kept

namespace Suggests

theorem length_newTags (h : r.Suggests) :
    r.newTags.length = if r.inferredTags ≠ [] then 1 else 0 := by
  rcases h with nothing | ⟨kind, suggested, new, -⟩
  · simp [newTags, nothing]
  · rw [newTags_of_kind suggested new, suggested]
    rfl

/-- No relation gets the tags of both kinds. -/
theorem bothKinds (h : r.Suggests) (direct : directTag ∈ r.tagged.tags)
    (indirect : indirectTag ∈ r.tagged.tags) :
    directTag ∈ r.relation.tags ∧ indirectTag ∈ r.relation.tags := by
  rcases h with nothing | ⟨kind, suggested, new, noOther⟩
  · rw [tagged_of_nothing nothing] at direct indirect
    exact ⟨direct, indirect⟩
  · have tags : r.tagged.tags = r.relation.tags ++ [kind.tag] := by
      rw [tagged, newTags_of_kind suggested new]
    rw [tags] at direct indirect
    exact absurd ⟨direct, indirect⟩ (RelationKind.not_both noOther)

end Suggests

end RelationResult

namespace ReconcileContext

variable {x : ReconcileContext} {names : List String} {usage : UsageIndex} {r : Relation}

/-- When the sources show a relation, they settle it. -/
theorem check_eq_settle {c : Classification} (source : r.source ∈ names)
    (noTrust : ¬x.Trusts r.target) (listed : r.target ∈ names)
    (found : verdict usage r.source r.target = some c) :
    x.check names usage r = settle r (bothFaults r) c := by
  have outcome : Outcome x names usage r (x.check names usage r) := check_outcome source
  generalize x.check names usage r = result at outcome
  cases outcome with
  | trusted trust => exact absurd trust noTrust
  | missing _ absent => exact absurd listed absent
  | unused _ _ none =>
    rw [found] at none
    cases none
  | settled _ _ found' =>
    obtain rfl := Option.some.inj (found.symm.trans found')
    rfl

/-- A relation that its verdict settles is given the tag of its kind if it carries the tag of
neither. -/
theorem inferredTags_settle (r : Relation) (both : List RelationFault) (c : Classification) :
    (settle r both c).inferredTags =
      if both = [] ∧ c.kind.tag ∉ r.tags ∧ c.kind.opposite.tag ∉ r.tags then [c.kind.tag]
      else [] := by
  cases both with
  | nil =>
    by_cases wrong : c.kind.opposite.tag ∈ r.tags <;> by_cases named : c.kind.tag ∈ r.tags <;>
      simp [settle, wrong, named]
  | cons fault both => simp [settle]

/-- When a result suggests a tag, the sources show the relation, and it carries the tag of neither
kind. -/
theorem check_inferredTags : (x.check names usage r).inferredTags = [] ∨
    ∃ c, r.source ∈ names ∧ ¬x.Trusts r.target ∧ r.target ∈ names ∧
      verdict usage r.source r.target = some c ∧ bothFaults r = [] ∧
      c.kind.tag ∉ r.tags ∧ c.kind.opposite.tag ∉ r.tags := by
  by_cases source : r.source ∈ names
  · have outcome : Outcome x names usage r (x.check names usage r) := check_outcome source
    generalize x.check names usage r = result at outcome
    cases outcome with
    | trusted _ => exact .inl rfl
    | missing _ _ => exact .inl rfl
    | unused _ _ _ => exact .inl rfl
    | @settled c noTrust listed found =>
      rw [inferredTags_settle]
      split
      · next free => exact .inr ⟨c, source, noTrust, listed, found, free⟩
      · exact .inl rfl
  · left
    rw [check, if_pos (by simpa using source)]

theorem check_suggests : (x.check names usage r).Suggests := by
  rcases check_inferredTags with nothing | ⟨c, source, noTrust, listed, found, none, free⟩
  · exact .inl nothing
  · refine .inr ⟨c.kind, ?_, ?_⟩
    · rw [check_eq_settle source noTrust listed found, inferredTags_settle, if_pos ⟨none, free⟩]
    · rw [check_relation]
      exact free

/-- What settles a relation depends on its tags by those that go against it, apart from the tags
that it is given. -/
theorem settle_congr {r' : Relation} {c : Classification} (both : List RelationFault)
    (same : c.kind.opposite.tag ∈ r'.tags ↔ c.kind.opposite.tag ∈ r.tags) :
    settle r' both c = { settle r both c with
      relation := r', inferredTags := (settle r' both c).inferredTags } := by
  have wrong : r'.tags.contains c.kind.opposite.tag = r.tags.contains c.kind.opposite.tag := by
    rw [Bool.eq_iff_iff, List.contains_iff_mem, List.contains_iff_mem]
    exact same
  simp only [settle, wrong]

/-- A relation with the tag that its result suggests gets the same result, which suggests nothing
more. -/
theorem check_tagged (x : ReconcileContext) (names : List String) (usage : UsageIndex)
    (r : Relation) :
    x.check names usage (x.check names usage r).tagged =
      { x.check names usage r with
        relation := (x.check names usage r).tagged, inferredTags := [] } := by
  have relation : (x.check names usage r).relation = r := x.check_relation names usage r
  rcases check_inferredTags with nothing | ⟨c, source, noTrust, listed, found, none, new, noOther⟩
  · -- Nothing is suggested, so the relation stays as it is.
    rw [RelationResult.tagged_of_nothing nothing, relation, ← nothing]
    generalize x.check names usage r = result at relation
    rw [← relation]
  · have settled : x.check names usage r = settle r [] c := by
      rw [check_eq_settle source noTrust listed found, none]
    have suggested : (settle r [] c).inferredTags = [c.kind.tag] := by
      rw [inferredTags_settle, if_pos ⟨rfl, new, noOther⟩]
    have tagged : (settle r [] c).tagged = { r with tags := r.tags ++ [c.kind.tag] } := by
      rw [RelationResult.tagged, RelationResult.newTags_of_kind suggested new]
      rfl
    rw [settled, tagged]
    generalize hr' : { r with tags := r.tags ++ [c.kind.tag] } = r'
    have tags : r'.tags = r.tags ++ [c.kind.tag] := by rw [← hr']
    have none' : bothFaults r' = [] := by
      rw [bothFaults_eq_nil_iff, tags]
      exact RelationKind.not_both noOther
    have other : c.kind.opposite.tag ≠ c.kind.tag := by cases c.kind <;> decide
    have same : c.kind.opposite.tag ∈ r'.tags ↔ c.kind.opposite.tag ∈ r.tags := by
      simp [tags, other]
    have again : x.check names usage r' = settle r' [] c := by
      rw [← none']
      subst hr'
      exact check_eq_settle source noTrust listed found
    have suggested' : (settle r' [] c).inferredTags = [] := by
      rw [inferredTags_settle, if_neg fun free => free.2.1 (by simp [tags])]
    rw [again, settle_congr [] same, suggested']

end ReconcileContext

/-! ## All results -/

/-- The number of tags is the number of results that suggest one. -/
theorem addedTags_of_suggests {results : List RelationResult} (h : ∀ r ∈ results, r.Suggests) :
    addedTags results = (results.filter fun r => r.inferredTags ≠ []).length := by
  induction results with
  | nil => rfl
  | cons r results ih =>
    have rest := ih fun r' hr' => h r' (List.mem_cons_of_mem r hr')
    have here := (h r List.mem_cons_self).length_newTags
    rw [addedTags] at rest ⊢
    rw [List.flatMap_cons, List.length_append, rest, here, List.filter_cons]
    by_cases suggested : r.inferredTags = []
    · simp [suggested]
    · simp [suggested, Nat.add_comm]

/-- Relations that were tagged get no further tags. -/
theorem addedTags_applyTags (results : List RelationResult) :
    addedTags (applyTags results) = 0 := by
  rw [addedTags, applyTags, List.flatMap_map]
  refine List.length_eq_zero_iff.2 (List.flatMap_eq_nil_iff.2 fun r _ => ?_)
  exact r.newTags_tagged

theorem applyTags_applyTags (results : List RelationResult) :
    applyTags (applyTags results) = applyTags results := by
  rw [applyTags, applyTags, List.map_map]
  refine List.map_congr_left fun r _ => ?_
  have same : { r with relation := r.tagged }.tagged = r.tagged := by
    rw [RelationResult.tagged, r.newTags_tagged, List.append_nil]
  exact congrArg (fun relation => { r with relation }) same

section reconcile

variable {x : ReconcileContext} {components : List Component} {usage : UsageIndex}
  {includeUndeclared : Bool}

theorem inferredTags_of_mem_undeclaredResults {u : RelationResult}
    (h : u ∈ undeclaredResults components usage) : u.inferredTags = [] := by
  obtain ⟨source, target, c, -, -, -, rfl⟩ := mem_undeclaredResults_iff.1 h
  rfl

theorem suggests_of_mem_reconcile {result : RelationResult}
    (h : result ∈ reconcile x components usage includeUndeclared) : result.Suggests := by
  rcases List.mem_append.1 h with declared | undeclared
  · obtain ⟨r, -, rfl⟩ := List.mem_map.1 declared
    exact ReconcileContext.check_suggests
  · split at undeclared
    · exact .inl (inferredTags_of_mem_undeclaredResults undeclared)
    · cases undeclared

/-- Of components, what nobody declared depends on the names and on what relations lead to. -/
theorem undeclaredResults_congr {others : List Component}
    (names : Component.names others = Component.names components)
    (pairs : (Component.allRelations others).map Relation.pair =
      (Component.allRelations components).map Relation.pair) :
    undeclaredResults others usage = undeclaredResults components usage := by
  unfold undeclaredResults
  unfold Relation.pair at pairs
  rw [names, pairs]

/-- The relations of components that were tagged are those of the results for them. -/
theorem allRelations_tagComponents :
    Component.allRelations
        (tagComponents components (reconcile x components usage includeUndeclared)) =
      (declaredResults x components usage).map (·.tagged) := by
  have length : (Component.allRelations components).length =
      ((declaredResults x components usage).map (·.tagged)).length := by
    rw [declaredResults, List.length_map, List.length_map]
  rw [tagComponents, allRelations_withRelations, reconcile, List.map_append, length, List.take_left]

/-- When the components are tagged as the results suggest and reconciled again, the results stay
but for the tags. -/
theorem reconcile_again :
    reconcile x (tagComponents components (reconcile x components usage includeUndeclared)) usage
        includeUndeclared =
      (reconcile x components usage includeUndeclared).map fun r =>
        { r with relation := r.tagged, inferredTags := [] } := by
  have names : Component.names
      (tagComponents components (reconcile x components usage includeUndeclared)) =
        Component.names components := names_withRelations _ _
  have relations : Component.allRelations
      (tagComponents components (reconcile x components usage includeUndeclared)) =
        (declaredResults x components usage).map (·.tagged) := allRelations_tagComponents
  generalize tagComponents components (reconcile x components usage includeUndeclared) = tagged
    at names relations ⊢
  have declared : declaredResults x tagged usage = (declaredResults x components usage).map fun r =>
      { r with relation := r.tagged, inferredTags := [] } := by
    rw [declaredResults, names, relations, declaredResults, List.map_map, List.map_map,
      List.map_map]
    exact List.map_congr_left fun r _ => x.check_tagged _ usage r
  have pairs : (Component.allRelations tagged).map Relation.pair =
      (Component.allRelations components).map Relation.pair := by
    rw [relations, ← map_relation_declaredResults x components usage, List.map_map, List.map_map]
    rfl
  have undeclared : undeclaredResults tagged usage =
      (undeclaredResults components usage).map fun r =>
        { r with relation := r.tagged, inferredTags := [] } := by
    rw [undeclaredResults_congr names pairs]
    refine ((List.map_congr_left fun u hu => ?_).trans (List.map_id _)).symm
    have nothing := inferredTags_of_mem_undeclaredResults hu
    rw [u.tagged_of_nothing nothing, ← nothing]
    rfl
  rw [reconcile, reconcile, List.map_append, declared]
  cases includeUndeclared with
  | true => rw [if_pos rfl, if_pos rfl, undeclared]
  | false => rfl

end reconcile

/-- Tagging relations as results suggest is done in one round. The number of tags that are added is
that of the results which suggest one, a second round adds none, no relation gets the tags of both
kinds, and the tagged components are given the same results, which suggest nothing. -/
theorem reconcile_tagComponents (x : ReconcileContext) (components : List Component)
    (usage : UsageIndex) (includeUndeclared : Bool) :
    let results := reconcile x components usage includeUndeclared
    addedTags results = (results.filter fun r => r.inferredTags ≠ []).length ∧
      addedTags (applyTags results) = 0 ∧ applyTags (applyTags results) = applyTags results ∧
      (∀ r ∈ results, directTag ∈ r.tagged.tags ∧ indirectTag ∈ r.tagged.tags →
        directTag ∈ r.relation.tags ∧ indirectTag ∈ r.relation.tags) ∧
      List.Forall₂ RelationResult.KeptBy results
        (reconcile x (tagComponents components results) usage includeUndeclared) := by
  intro results
  refine ⟨addedTags_of_suggests fun r hr => suggests_of_mem_reconcile hr,
    addedTags_applyTags results, applyTags_applyTags results,
    fun r hr both => (suggests_of_mem_reconcile hr).bothKinds both.1 both.2, ?_⟩
  rw [reconcile_again, List.forall₂_map_right_iff, List.forall₂_same]
  intro r _
  exact ⟨rfl, rfl, rfl, rfl, rfl, rfl, rfl, rfl⟩

end ArchModel
