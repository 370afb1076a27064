import ArchModel.Proofs.Validation.Undeclared

/-!
# Results under more evidence

* `ReconcileContext.check_cases`: the result for a relation depends on an index by the verdict, if
  at all.
* `ReconcileContext.verdict_grows`: with more evidence a verdict stays, and stays direct.
* `RelationResult.Agrees` holds of results that tell the same apart from the evidence that they
  name.
* **`ReconcileContext.reconcile_grows`**: with more evidence what is used stays used, what is direct
  stays direct and what nobody declared stays reported, and the order of evidence changes no result.
-/

namespace ArchModel

/-- The kind of a relation in the eyes of its result. -/
def RelationResult.kind? (r : RelationResult) : Option RelationKind := r.classification.map (·.kind)

/-- Two results tell the same of a relation, apart from the evidence that they name. -/
structure RelationResult.Agrees (a b : RelationResult) : Prop where
  targetExists : a.targetExists = b.targetExists
  isUsed : a.isUsed = b.isUsed
  kind : a.kind? = b.kind?
  inferredTags : a.inferredTags = b.inferredTags
  hasProblems : a.hasProblems = b.hasProblems

theorem RelationResult.Agrees.refl (r : RelationResult) : r.Agrees r := ⟨rfl, rfl, rfl, rfl, rfl⟩

theorem RelationKind.eq_of_direct_iff {a b : RelationKind} (h : a = .direct ↔ b = .direct) :
    a = b := by
  cases a <;> cases b <;> simp_all

namespace ReconcileContext

variable {x : ReconcileContext} {names : List String} {r : Relation}

/-- The result for a relation whose target is looked for in the sources. -/
def byVerdict (r : Relation) : Option Classification → RelationResult
  | some c => settle r (bothFaults r) c
  | none =>
    { relation := r, targetExists := true, isUsed := false, faults := bothFaults r ++ [.unused] }

/-- The result for a relation depends on an index by the verdict, if at all. -/
theorem check_cases (x : ReconcileContext) (names : List String) (r : Relation) :
    (∃ result, ∀ usage, x.check names usage r = result) ∨
      ∀ usage, x.check names usage r = byVerdict r (verdict usage r.source r.target) := by
  by_cases seen : r.source ∈ names ∧ ¬x.Trusts r.target ∧ r.target ∈ names
  · right
    intro usage
    have outcome : Outcome x names usage r (x.check names usage r) := check_outcome seen.1
    generalize x.check names usage r = result at outcome
    cases outcome with
    | trusted trust => exact absurd trust seen.2.1
    | missing _ absent => exact absurd seen.2.2 absent
    | settled _ _ found => rw [found, byVerdict]
    | unused _ _ none => rw [none, byVerdict]
  · left
    refine ⟨x.check names {} r, fun usage => ?_⟩
    unfold check
    dsimp only
    split
    · rfl
    · next source =>
      split
      · rfl
      · next noTrust =>
        rw [trusts_iff] at noTrust
        have source : r.source ∈ names := by simpa using source
        have absent : (!names.contains r.target) = true := by
          simpa using fun listed => seen ⟨source, noTrust, listed⟩
        rw [if_pos absent, if_pos absent]

theorem isUsed_byVerdict (r : Relation) (v : Option Classification) :
    (byVerdict r v).isUsed = v.isSome := by
  cases v <;> rfl

theorem kind?_byVerdict (r : Relation) (v : Option Classification) :
    (byVerdict r v).kind? = v.map (·.kind) := by
  cases v <;> rfl

/-- Verdicts of one kind settle a relation alike. -/
theorem byVerdict_agrees (r : Relation) {v w : Option Classification}
    (same : v.map (·.kind) = w.map (·.kind)) : (byVerdict r v).Agrees (byVerdict r w) := by
  cases v with
  | none =>
    cases w with
    | none => exact .refl _
    | some d => cases same
  | some c =>
    cases w with
    | none => cases same
    | some d =>
      have kind : c.kind = d.kind := Option.some.inj same
      have problems : (settle r (bothFaults r) c).hasProblems = false ↔
          (settle r (bothFaults r) d).hasProblems = false := by
        rw [hasProblems_settle, hasProblems_settle, kind]
      refine ⟨rfl, rfl, same, ?_, ?_⟩
      · simp only [byVerdict, settle, kind]
      · rw [byVerdict, byVerdict, Bool.eq_iff_iff, ← not_iff_not, Bool.not_eq_true,
          Bool.not_eq_true]
        exact problems

/-! ## More evidence -/

section grows

variable {us vs : List UsageStep} {source target : String}

/-- With more evidence a verdict stays, and a direct one stays direct. -/
theorem verdict_grows (h : (UsageIndex.ofSteps us).Within (.ofSteps vs)) {c : Classification}
    (found : verdict (.ofSteps us) source target = some c) :
    ∃ d, verdict (.ofSteps vs) source target = some d ∧ (c.kind = .direct → d.kind = .direct) := by
  have shown : verdict (.ofSteps vs) source target ≠ none := by
    intro none
    obtain ⟨noEvidence, noReach⟩ := verdict_eq_none_iff.1 none
    have noEvidence' : (UsageIndex.ofSteps us).between source target = [] :=
      List.eq_nil_iff_forall_not_mem.2 fun e he => by simpa [noEvidence] using h.between he
    have noReach' : (UsageIndex.ofSteps us).reached source target = [] :=
      List.eq_nil_iff_forall_not_mem.2 fun e he => by simpa [noReach] using h.reached _ _ e he
    rw [verdict_eq_none_iff.2 ⟨noEvidence', noReach'⟩] at found
    cases found
  obtain ⟨d, found'⟩ := Option.ne_none_iff_exists'.1 shown
  refine ⟨d, found', fun direct => ?_⟩
  obtain ⟨e, he, holds⟩ := (verdict_kind found).1 direct
  exact (verdict_kind found').2 ⟨e, h.between he, holds⟩

/-- The kind of a verdict does not depend on the order of the evidence. -/
theorem verdict_kind_eq (h : (UsageIndex.ofSteps us).Within (.ofSteps vs))
    (h' : (UsageIndex.ofSteps vs).Within (.ofSteps us)) :
    (verdict (.ofSteps us) source target).map (·.kind) =
      (verdict (.ofSteps vs) source target).map (·.kind) := by
  cases found : verdict (.ofSteps us) source target with
  | some c =>
    obtain ⟨d, found', direct⟩ := verdict_grows h found
    obtain ⟨c', again, direct'⟩ := verdict_grows h' found'
    obtain rfl := Option.some.inj (found.symm.trans again)
    rw [found', Option.map_some, Option.map_some, RelationKind.eq_of_direct_iff ⟨direct, direct'⟩]
  | none =>
    cases found' : verdict (.ofSteps vs) source target with
    | none => rfl
    | some d =>
      obtain ⟨c, again, -⟩ := verdict_grows h' found'
      rw [found] at again
      cases again

/-- With more evidence a relation that is used stays so, and one that is direct stays so. -/
theorem check_grows (x : ReconcileContext) (names : List String)
    (h : (UsageIndex.ofSteps us).Within (.ofSteps vs)) (r : Relation) :
    ((x.check names (.ofSteps us) r).isUsed = true →
        (x.check names (.ofSteps vs) r).isUsed = true) ∧
      ((x.check names (.ofSteps us) r).kind? = some .direct →
        (x.check names (.ofSteps vs) r).kind? = some .direct) := by
  rcases check_cases x names r with ⟨result, same⟩ | byVerdict
  · rw [same, same]
    exact ⟨id, id⟩
  · rw [byVerdict, byVerdict, isUsed_byVerdict, isUsed_byVerdict, kind?_byVerdict, kind?_byVerdict]
    cases found : verdict (.ofSteps us) r.source r.target with
    | none => exact ⟨fun used => (Bool.false_ne_true used).elim, fun direct => by cases direct⟩
    | some c =>
      obtain ⟨d, found', grows⟩ := verdict_grows h found
      rw [found']
      exact ⟨fun _ => rfl, fun direct => congrArg some (grows (Option.some.inj direct))⟩

/-- The order of the evidence changes nothing in the result for a relation but what it names. -/
theorem check_agrees (x : ReconcileContext) (names : List String)
    (h : (UsageIndex.ofSteps us).Within (.ofSteps vs))
    (h' : (UsageIndex.ofSteps vs).Within (.ofSteps us)) (r : Relation) :
    (x.check names (.ofSteps us) r).Agrees (x.check names (.ofSteps vs) r) := by
  rcases check_cases x names r with ⟨result, same⟩ | byVerdict
  · rw [same, same]
    exact .refl result
  · rw [byVerdict, byVerdict]
    exact byVerdict_agrees r (verdict_kind_eq h h')

theorem classify_grows (h : (UsageIndex.ofSteps us).Within (.ofSteps vs)) {c d : Classification}
    (hc : classify ((UsageIndex.ofSteps us).between source target) = some c)
    (hd : classify ((UsageIndex.ofSteps vs).between source target) = some d)
    (direct : c.kind = .direct) : d.kind = .direct := by
  obtain ⟨e, he, holds⟩ := (classify_kind hc).1 direct
  exact (classify_kind hd).2 ⟨e, h.between he, holds⟩

end grows

end ReconcileContext

theorem Undeclared.grows {components : List Component} {us vs : List UsageStep}
    {source target : String} (h : (UsageIndex.ofSteps us).Within (.ofSteps vs))
    (undeclared : Undeclared components (.ofSteps us) source target) :
    Undeclared components (.ofSteps vs) source target := by
  obtain ⟨e, he⟩ := List.exists_mem_of_ne_nil _ undeclared.used
  exact { undeclared with used := List.ne_nil_of_mem (h.between he) }

theorem mem_reconcile_undeclared_iff {x : ReconcileContext} {components : List Component}
    {usage : UsageIndex} {u : RelationResult} :
    u ∈ reconcile x components usage true ∧ u.undeclared = true ↔
      u ∈ undeclaredResults components usage := by
  rw [reconcile, if_pos rfl, List.mem_append]
  constructor
  · rintro ⟨declared | found, undeclared⟩
    · rw [(mem_declaredResults declared).1] at undeclared
      cases undeclared
    · exact found
  · intro found
    exact ⟨.inr found, (mem_undeclaredResults found).1⟩

/-- A pair that is reported without being declared is reported under more evidence, too. -/
theorem exists_reported {x : ReconcileContext} {components : List Component}
    {us vs : List UsageStep} (h : (UsageIndex.ofSteps us).Within (.ofSteps vs)) {u : RelationResult}
    (hu : u ∈ reconcile x components (.ofSteps us) true) (undeclared : u.undeclared = true) :
    ∃ source target c d, classify ((UsageIndex.ofSteps us).between source target) = some c ∧
      classify ((UsageIndex.ofSteps vs).between source target) = some d ∧
      u = undeclaredResult source target c ∧
      undeclaredResult source target d ∈ reconcile x components (.ofSteps vs) true := by
  obtain ⟨source, target, c, -, pair, hc, rfl⟩ :=
    mem_undeclaredResults_iff.1 (mem_reconcile_undeclared_iff.1 ⟨hu, undeclared⟩)
  obtain ⟨d, hd, found⟩ := (pair.grows h).exists_result
  exact ⟨source, target, c, d, hc, hd, rfl, (mem_reconcile_undeclared_iff.2 found).1⟩

namespace ReconcileContext

/-- Results under more evidence. What is used stays used, what is direct stays direct, and a pair
that is reported without being declared stays reported, as direct if it was. When two indexes hold
the same in different orders, the results differ in nothing but the evidence that they name. -/
theorem reconcile_grows (x : ReconcileContext) (components : List Component)
    {us vs : List UsageStep} (h : (UsageIndex.ofSteps us).Within (.ofSteps vs)) :
    let before := UsageIndex.ofSteps us
    let after := UsageIndex.ofSteps vs
    let names := Component.names components
    (∀ r, ((x.check names before r).isUsed = true → (x.check names after r).isUsed = true) ∧
      ((x.check names before r).kind? = some .direct →
        (x.check names after r).kind? = some .direct)) ∧
    (∀ u ∈ reconcile x components before true, u.undeclared = true →
      ∃ v ∈ reconcile x components after true, v.undeclared = true ∧
        v.relation.pair = u.relation.pair ∧ (u.kind? = some .direct → v.kind? = some .direct)) ∧
    (after.Within before → (∀ r, (x.check names before r).Agrees (x.check names after r)) ∧
      ∀ u ∈ reconcile x components before true, u.undeclared = true →
        ∃ v ∈ reconcile x components after true, v.undeclared = true ∧
          v.relation.pair = u.relation.pair ∧ u.Agrees v) := by
  intro before after names
  refine ⟨x.check_grows names h, fun u hu undeclared => ?_,
    fun h' => ⟨x.check_agrees names h h', fun u hu undeclared => ?_⟩⟩
  · obtain ⟨source, target, c, d, hc, hd, rfl, found⟩ := exists_reported h hu undeclared
    refine ⟨_, found, rfl, rfl, fun direct => ?_⟩
    exact congrArg some (classify_grows h hc hd (Option.some.inj direct))
  · obtain ⟨source, target, c, d, hc, hd, rfl, found⟩ := exists_reported h hu undeclared
    have kind : c.kind = d.kind :=
      RelationKind.eq_of_direct_iff ⟨classify_grows h hc hd, classify_grows h' hd hc⟩
    exact ⟨_, found, rfl, rfl, rfl, rfl, congrArg some kind, rfl, rfl⟩

/-- Evidence in another order: the result names another place and tells the same. -/
theorem reconcile_grows_reordered :
    let component (name : String) : Component :=
      { name, description := "", location := ⟨"app.py", name, 1, none⟩ }
    let evidence (kind : UsageKind) (line : Int) : Evidence :=
      { source := "A", target := "B", kind, location := ⟨"app.py", "A", line, none⟩ }
    let us : List UsageStep :=
      [.add (evidence .methodParam 3), .add (evidence .field 5), .add (evidence .constructor 7)]
    let vs := us.reverse
    let relation : Relation :=
      { source := "A", target := "B", description := "Asks", location := ⟨"app.py", "A", 2, none⟩ }
    let names := Component.names [component "A", component "B"]
    let before := check {} names (.ofSteps us) relation
    let after := check {} names (.ofSteps vs) relation
    (UsageIndex.ofSteps us).Within (.ofSteps vs) ∧ (UsageIndex.ofSteps vs).Within (.ofSteps us) ∧
      before.usageLocation ≠ after.usageLocation ∧ before.Agrees after ∧
      after.inferredTags = [directTag] := by
  intro component evidence us vs relation names before after
  have grows : (UsageIndex.ofSteps us).Within (.ofSteps vs) :=
    .of_steps fun s hs => List.mem_reverse.2 hs
  have back : (UsageIndex.ofSteps vs).Within (.ofSteps us) :=
    .of_steps fun s hs => List.mem_reverse.1 hs
  have agrees : before.Agrees after :=
    ((reconcile_grows {} [component "A", component "B"] grows).2.2 back).1 relation
  exact ⟨grows, back, by decide, agrees, by decide⟩

end ReconcileContext

end ArchModel
