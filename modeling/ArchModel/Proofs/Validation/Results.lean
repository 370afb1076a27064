import ArchModel.Validation.Reconcile

/-!
# Results and the relations that they are about

* `ReconcileContext.check_relation`: the result of checking a relation is about this relation, and
  it is not one that nobody declared (`check_undeclared`).
* `map_relation_declaredResults`, `mem_declaredResults`: each declared relation has a result, in
  order.
* `mem_undeclaredResults`: what is found and was not declared is a problem.
* `allRelations_withRelations`: components take over relations in order.
-/

namespace ArchModel

theorem ReconcileContext.check_undeclared (x : ReconcileContext) (names : List String)
    (usage : UsageIndex) (r : Relation) : (x.check names usage r).undeclared = false := by
  unfold check
  dsimp only
  split
  · rfl
  split
  · rfl
  split
  · rfl
  split <;> rfl

theorem ReconcileContext.check_relation (x : ReconcileContext) (names : List String)
    (usage : UsageIndex) (r : Relation) : (x.check names usage r).relation = r := by
  unfold check
  dsimp only
  split
  · rfl
  split
  · rfl
  split
  · rfl
  split <;> rfl

/-- The results for declared relations stand in the order of the relations. -/
theorem map_relation_declaredResults (x : ReconcileContext) (cs : List Component)
    (usage : UsageIndex) :
    (declaredResults x cs usage).map (·.relation) = Component.allRelations cs := by
  rw [declaredResults, List.map_map]
  refine (List.map_congr_left fun r _ => ?_).trans (List.map_id _)
  exact x.check_relation _ usage r

/-- The result for a declared relation is that of checking it. -/
theorem mem_declaredResults {x : ReconcileContext} {cs : List Component} {usage : UsageIndex}
    {r : RelationResult} (h : r ∈ declaredResults x cs usage) :
    r.undeclared = false ∧ r = x.check (Component.names cs) usage r.relation := by
  obtain ⟨r, -, rfl⟩ := List.mem_map.1 h
  rw [x.check_relation]
  exact ⟨x.check_undeclared _ usage r, rfl⟩

/-- A relation that nobody declared has a problem. -/
theorem mem_undeclaredResults {cs : List Component} {usage : UsageIndex} {r : RelationResult}
    (h : r ∈ undeclaredResults cs usage) : r.undeclared = true ∧ r.hasProblems = true := by
  obtain ⟨pair, -, found⟩ := List.mem_filterMap.1 h
  dsimp only at found
  split at found
  · cases found
  · obtain ⟨c, -, rfl⟩ := Option.map_eq_some_iff.1 found
    exact ⟨rfl, by simp [undeclaredResult, RelationResult.hasProblems]⟩

theorem allRelations_withRelations (cs : List Component) (rs : List Relation) :
    Component.allRelations (Component.withRelations cs rs) =
      rs.take (Component.allRelations cs).length := by
  induction cs generalizing rs with
  | nil => simp [Component.withRelations, Component.allRelations]
  | cons c cs ih =>
    rw [Component.withRelations, Component.allRelations_cons, Component.allRelations_cons, ih,
      List.length_append, List.take_add]

theorem names_withRelations (cs : List Component) (rs : List Relation) :
    Component.names (Component.withRelations cs rs) = Component.names cs := by
  induction cs generalizing rs with
  | nil => rfl
  | cons c cs ih => exact congrArg (c.name :: ·) (ih _)

/-- The outcome for a relation that carries the tags which the outcome suggests. -/
def ReconcileContext.checkTagged (x : ReconcileContext) (names : List String) (usage : UsageIndex)
    (r : Relation) : RelationResult :=
  { x.check names usage r with relation := (x.check names usage r).tagged }

theorem ReconcileContext.checkTagged_relation (x : ReconcileContext) (names : List String)
    (usage : UsageIndex) (r : Relation) : ∃ added,
      (x.checkTagged names usage r).relation = { r with tags := r.tags ++ added } := by
  refine ⟨(x.check names usage r).newTags, ?_⟩
  rw [checkTagged, RelationResult.tagged, check_relation]

end ArchModel
