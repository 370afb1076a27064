import ArchModel.Proofs.Places
import ArchModel.Proofs.Validation.Repetition
import Mathlib.Data.List.Flatten

/-!
# Relations that are declared twice

Of the relations of one key the first one stays, whichever components declare them.

* `firsts_eq_anew` and `map_fst_repetitions`: the members of a new key and the others are what a
  pass over the list finds.
  `dropRepeated_eq`: these are the relations that each component keeps.
* `Rule.violations_sublist`: other rules have nothing to say of fewer relations that they did not
  say before.
* **`dropDuplicates_first`**: what is kept and what is reported when relations that are declared
  twice are removed.
-/

namespace ArchModel

/-! ## What a pass finds -/

section firsts

variable {α κ : Type} [DecidableEq κ] {key : α → κ} {seen earlier : List α}

theorem SameKeys.firsts (h : SameKeys key seen earlier) (as : List α) :
    SameKeys key (seen ++ firsts key seen as) (earlier ++ as) := by
  induction as generalizing seen earlier with
  | nil => simpa [ArchModel.firsts] using h
  | cons a as ih =>
    by_cases ha : key a ∈ seen.map key
    · rw [firsts_cons_of_mem ha, List.append_cons]
      exact ih (h.pass ((h _).1 ha))
    · rw [firsts_cons_of_notMem ha, List.append_cons seen, List.append_cons earlier]
      exact ih (h.concat a)

/-- A pass keeps the members of a new key. -/
theorem firsts_eq_anew (h : SameKeys key seen earlier) (as : List α) :
    firsts key seen as = anew key earlier as := by
  induction as generalizing seen earlier with
  | nil => rfl
  | cons a as ih =>
    by_cases ha : key a ∈ seen.map key
    · rw [firsts_cons_of_mem ha, anew_cons_of_mem ((h _).1 ha), ih (h.pass ((h _).1 ha))]
    · rw [firsts_cons_of_notMem ha, anew_cons_of_notMem fun known => ha ((h _).2 known),
        ih (h.concat a)]

/-- A pass finds repetitions at the other places. -/
theorem map_fst_repetitions (h : SameKeys key seen earlier) (as : List α) :
    (repetitions key seen as).map Prod.fst = again key earlier as := by
  induction as generalizing seen earlier with
  | nil => rfl
  | cons a as ih =>
    rw [repetitions]
    split
    · next first found =>
      have known : key a ∈ seen.map key := by
        by_contra new
        rw [find?_key_eq_none_iff.2 new] at found
        cases found
      rw [again_cons_of_mem ((h _).1 known), List.map_cons, ih (h.pass ((h _).1 known))]
    · next none =>
      have new := find?_key_eq_none_iff.1 none
      rw [again_cons_of_notMem fun known => new ((h _).2 known), ih (h.concat a)]

/-- A repetition is told together with the member of its key that was found first. -/
theorem of_mem_repetitions {as : List α} {x : α × α} (h : x ∈ repetitions key seen as) :
    x.2 ∈ seen ++ firsts key seen as ∧ key x.2 = key x.1 := by
  fun_induction repetitions key seen as with
  | case1 => cases h
  | case2 seen a as first found ih =>
    have same : key first = key a := by simpa using List.find?_some found
    rw [firsts_cons_of_mem (List.mem_map.2 ⟨first, List.mem_of_find?_eq_some found, same⟩)]
    rcases List.mem_cons.1 h with rfl | h
    · exact ⟨List.mem_append_left _ (List.mem_of_find?_eq_some found), same⟩
    · exact ih h
  | case3 seen a as none ih =>
    rw [firsts_cons_of_notMem (find?_key_eq_none_iff.1 none), List.append_cons]
    exact ih h

/-- Whether members repeat each other shows in what their key is read off. -/
theorem map_repetitions {β : Type} (view : α → β) (key : β → κ) (seen as : List α) :
    (repetitions (fun a => key (view a)) seen as).map (Prod.map view view) =
      repetitions key (seen.map view) (as.map view) := by
  induction as generalizing seen with
  | nil => rfl
  | cons a as ih =>
    have found : (seen.map view).find? (key · = key (view a)) =
        (seen.find? fun b => key (view b) = key (view a)).map view := by
      rw [List.find?_map]
      rfl
    rw [repetitions, List.map_cons, repetitions, found]
    cases seen.find? fun b => key (view b) = key (view a) with
    | none => simpa using ih (seen ++ [a])
    | some first => simpa using ih seen

end firsts

/-! ## Relations -/

/-- The relations that a component keeps are those whose key is new. -/
theorem dropRepeated_eq {seen earlier : List Relation} (h : SameKeys Relation.key seen earlier)
    (cs : List Component) :
    dropRepeated (seen.map Relation.key) cs = cs.zipIdx.map fun x =>
      let before := earlier ++ Component.allRelations (cs.take x.2)
      { x.1 with relations := anew Relation.key before x.1.relations } := by
  induction cs generalizing seen earlier with
  | nil => rfl
  | cons c cs ih =>
    rw [dropRepeated_cons, ih (h.firsts c.relations), firsts_eq_anew h, List.zipIdx_cons,
      List.zipIdx_succ, List.map_cons, List.map_map]
    simp [Function.comp_def, Component.allRelations]

/-! ## Rules -/

/-- Removing relations changes no component otherwise. -/
theorem map_dropRepeated (seen : List (String × String × String)) (cs : List Component) :
    (dropRepeated seen cs).map (fun c => (c.name, c.location)) =
      cs.map fun c => (c.name, c.location) := by
  induction cs generalizing seen with
  | nil => rfl
  | cons c cs ih => exact congrArg ((c.name, c.location) :: ·) (ih _)

/-- What is said of components of one name depends on their names and places. -/
theorem map_violation_duplicateComponent (cs : List Component) :
    (Rule.duplicateComponent.check cs).map RuleBreach.violation =
      (repetitions Prod.fst [] (cs.map fun c => (c.name, c.location))).map fun (c, first) =>
        { rule := Rule.duplicateComponent.word, subject := c.1
          detail := "Duplicate component name \"" ++ c.1 ++ "\" (first declared at " ++
            first.2.text ++ ")"
          location := c.2 } := by
  have viewed := map_repetitions (fun c : Component => (c.name, c.location)) Prod.fst [] cs
  rw [List.map_nil] at viewed
  rw [← viewed, Rule.check, List.map_map, List.map_map]
  rfl

/-- Rules that have nothing to say of repeated relations say nothing of fewer relations that they
did not say of more. -/
theorem Rule.violations_sublist {kept cs : List Component}
    (same : kept.map (fun c => (c.name, c.location)) = cs.map fun c => (c.name, c.location))
    (fewer : (Component.allRelations kept).Sublist (Component.allRelations cs))
    (distinct : Rule.duplicateRelation.check kept = []) (rule : Rule) :
    ((rule.check kept).map RuleBreach.violation).Sublist
      ((rule.check cs).map RuleBreach.violation) := by
  cases rule with
  | duplicateComponent =>
    rw [map_violation_duplicateComponent, map_violation_duplicateComponent, same]
  | missingField => exact (fewer.flatMap _).map _
  | duplicateRelation =>
    rw [distinct]
    exact List.nil_sublist _
  | selfRelation => exact ((fewer.filter _).map _).map _
  | tagConflict => exact ((fewer.filter _).map _).map _

/-- Of repeated relations nothing is said once they are removed. -/
theorem rule_ne_of_mem_checkModel {cs : List Component}
    (distinct : Rule.duplicateRelation.check cs = []) {b : RuleBreach} (h : b ∈ checkModel cs) :
    b.rule ≠ .duplicateRelation := by
  obtain ⟨rule, -, hb⟩ := List.mem_flatMap.1 h
  rw [Rule.rule_of_mem_check hb]
  rintro rfl
  rw [distinct] at hb
  cases hb

/-! ## Removal -/

theorem dropRepeated_of_nodup {seen : List Relation} {cs : List Component}
    (h : ((seen ++ Component.allRelations cs).map Relation.key).Nodup) :
    dropRepeated (seen.map Relation.key) cs = cs := by
  induction cs generalizing seen with
  | nil => rfl
  | cons c cs ih =>
    rw [Component.allRelations_cons, ← List.append_assoc] at h
    have all : firsts Relation.key seen c.relations = c.relations := by
      have distinct : ((seen ++ c.relations).map Relation.key).Nodup := by
        rw [List.map_append] at h
        exact h.of_append_left
      exact firsts_of_nodup distinct
    rw [dropRepeated_cons, all, ih h]

/-- The repetitions are reported in order, each with the relation of its key that is kept. -/
theorem forall₂_check_duplicateRelation (cs : List Component) :
    List.Forall₂ (fun r b => ∃ first ∈ Component.allRelations (dropDuplicates cs).1,
        first.key = r.key ∧ b = RuleBreach.duplicateRelation r first.location)
      (again Relation.key [] (Component.allRelations cs)) (dropDuplicates cs).2 := by
  have kept : Component.allRelations (dropDuplicates cs).1 =
      firsts Relation.key [] (Component.allRelations cs) := allRelations_dropRepeated [] cs
  have removed := map_fst_repetitions (.nil Relation.key) (Component.allRelations cs)
  rw [← removed, kept, dropDuplicates, Rule.check, List.forall₂_map_left_iff,
    List.forall₂_map_right_iff, List.forall₂_same]
  intro x hx
  obtain ⟨mem, same⟩ := of_mem_repetitions hx
  exact ⟨x.2, mem, same, rfl⟩

theorem dropDuplicates_of_nodup {cs : List Component}
    (h : ((Component.allRelations cs).map Relation.key).Nodup) : dropDuplicates cs = (cs, []) := by
  have same := @dropRepeated_of_nodup [] cs h
  have silent := @repetitions_eq_nil _ _ _ Relation.key [] (Component.allRelations cs) h
  rw [List.map_nil] at same
  rw [dropDuplicates, same, Rule.check, silent, List.map_nil]

/-- **The first relation of a key stays.** When relations that are declared twice are removed, each
component keeps, in order, those whose key occurs nowhere before: neither among its own relations
nor among those of the components before it. Each relation at another place is reported, in order,
with the place of the kept relation of its key. After that no key occurs twice, removing repetitions
again changes nothing and reports nothing, and of what the rules said before they say the same as
far as it still applies, and of repeated relations nothing. (Two relations of a list are two
relations even if all their parts are equal.) -/
theorem dropDuplicates_first (cs : List Component) :
    let kept := (dropDuplicates cs).1
    (kept = cs.zipIdx.map fun x =>
      let before := Component.allRelations (cs.take x.2)
      { x.1 with relations := anew Relation.key before x.1.relations }) ∧
    List.Forall₂ (fun r v => ∃ first ∈ Component.allRelations kept, first.key = r.key ∧
        v = { rule := "duplicate-relation", subject := r.source
              detail := "Duplicate relation from \"" ++ r.source ++ "\" to \"" ++ r.target ++
                "\" with description \"" ++ r.description ++ "\" (first declared at " ++
                first.location.text ++ ")"
              location := some r.location })
      (again Relation.key [] (Component.allRelations cs))
      ((dropDuplicates cs).2.map RuleBreach.violation) ∧
    ((Component.allRelations kept).map Relation.key).Nodup ∧
    dropDuplicates kept = (kept, []) ∧
    (∀ v ∈ (checkModel kept).map RuleBreach.violation, v.rule ≠ "duplicate-relation") ∧
    ((checkModel kept).map RuleBreach.violation).Sublist
      ((checkModel cs).map RuleBreach.violation) := by
  intro kept
  have distinct : ((Component.allRelations kept).map Relation.key).Nodup :=
    nodup_key_dropRepeated cs
  have silent : Rule.duplicateRelation.check kept = [] := duplicateRelation_check_dropRepeated cs
  refine ⟨?_, ?_, distinct, dropDuplicates_of_nodup distinct, fun v hv => ?_, ?_⟩
  · exact dropRepeated_eq (.nil Relation.key) cs
  · rw [List.forall₂_map_right_iff]
    refine (forall₂_check_duplicateRelation cs).imp ?_
    rintro r b ⟨first, mem, same, rfl⟩
    exact ⟨first, mem, same, rfl⟩
  · obtain ⟨b, hb, rfl⟩ := List.mem_map.1 hv
    exact fun word => rule_ne_of_mem_checkModel silent hb (Rule.word_inj word)
  · have fewer : (Component.allRelations kept).Sublist (Component.allRelations cs) := by
      have all : Component.allRelations kept = _ := allRelations_dropRepeated [] cs
      exact all ▸ sublist_firsts Relation.key [] _
    rw [checkModel, checkRules, checkModel, checkRules, List.map_flatMap, List.map_flatMap]
    exact List.Sublist.flatMap_right _ fun rule _ =>
      rule.violations_sublist (map_dropRepeated [] cs) fewer silent

end ArchModel
