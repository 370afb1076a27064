import ArchModel.Proofs.Usage.Own
import ArchModel.Proofs.Usage.Reach

/-!
# Evidence of components

The evidence that names a component as its source is what is found in its class, and the calls
among it are the call sites of its methods, whatever else a finder looked for and wherever it
started.

* `Program.filter_source_findings`: the findings of a component are `UsageScope.direct`.
* `Program.ownCalls` lists the call sites of a component that lead to other components.
  **`UsageFinder.evidence_ownCalls`**: they are the calls of the evidence, in order.
-/

namespace ArchModel

open Source

namespace Program

variable {p : Program} {cs : List Component}

theorem Distinct.mem_componentsById_iff (h : p.Distinct cs) {x : ClassId × Component} :
    x ∈ (p.componentsById cs).toList ↔ x.2 ∈ cs ∧ p.idOf? x.2 = some x.1 := by
  rw [← h.componentsById_iff, Entries.get?_eq_some_iff]

/-- Where other components give nothing, all components together give what one gives. -/
theorem Distinct.flatMap_componentsById {α : Type u} (h : p.Distinct cs) {o : Component}
    (ho : o ∈ cs) {g : ClassId × Component → List α}
    (hg : ∀ x ∈ (p.componentsById cs).toList, x.2 ≠ o → g x = []) :
    (p.componentsById cs).toList.flatMap g = (p.idOf? o).toList.flatMap fun id => g (id, o) := by
  cases hi : p.idOf? o with
  | none =>
    refine List.flatMap_eq_nil_iff.2 fun x hx => hg x hx ?_
    rintro rfl
    rw [(h.mem_componentsById_iff.1 hx).2] at hi
    cases hi
  | some id =>
    rw [Entries.flatMap_toList (h.componentsById_iff.2 ⟨ho, hi⟩), Option.toList_some,
      List.flatMap_singleton]
    refine fun x hx hne => hg x hx ?_
    rintro rfl
    exact hne (Option.some.inj ((h.mem_componentsById_iff.1 hx).2.symm.trans hi))

/-- The evidence of a component is what is found in its class. -/
theorem filter_source_findings (hp : p.Indexed) (h : p.Distinct cs) (d : Int) {o : Component}
    (ho : o ∈ cs) :
    ((p.findings d cs).filterMap (·.evidence?)).filter (·.source = o.name) =
      (p.idOf? o).toList.flatMap fun id => (p.usageScope d cs).direct id o := by
  have direct : ∀ x ∈ (p.componentsById cs).toList,
      ((p.usageScope d cs).found x.1 x.2).filterMap (·.evidence?) =
        (p.usageScope d cs).direct x.1 x.2 := by
    intro x hx
    obtain ⟨hc, hi⟩ := h.mem_componentsById_iff.1 hx
    exact UsageScope.filterMap_evidence_found (h.lists d) hc hi hp
  have source : ∀ {id c e}, e ∈ (p.usageScope d cs).direct id c → e.source = c.name :=
    fun he => (UsageScope.joins_of_mem_direct hp he).1
  rw [findings, List.filterMap_flatMap, List.flatMap_congr direct, List.filter_flatMap,
    h.flatMap_componentsById ho]
  · refine List.flatMap_congr fun id _ => ?_
    exact List.filter_eq_self.2 fun e he => decide_eq_true (source he)
  · intro x hx hne
    refine List.filter_eq_nil_iff.2 fun e he hs => hne ?_
    rw [source he] at hs
    exact h.eq_of_name (h.mem_componentsById_iff.1 hx).1 ho (of_decide_eq_true hs)

/-! ## Calls of a component itself -/

/-- The call sites of a component that lead to other components: for each method that its class
records those of the method, in order. -/
def ownCalls (p : Program) (cs : List Component) (o : Component) : List Evidence :=
  match (p.idOf? o).bind p.class? with
  | none => []
  | some c => c.methods.toList.flatMap fun (name, f) =>
    (p.callSites c f).filterMap fun site =>
      (cs.find? fun t => t ≠ o ∧ p.idOf? t = some site.target).map fun t =>
        { source := o.name, target := t.name, kind := .methodCall
          location :=
            { file := c.path.text, declaration := c.id.qualname, line := site.line
              method := some name }
          callChain := [o.name ++ "." ++ name]
          receiver := some site.receiver }

/-- The other components of a list, by their classes. -/
theorem Distinct.find?_other (h : p.Distinct cs) (d : Int) {o : Component} (ho : o ∈ cs)
    {id : ClassId} (hi : p.idOf? o = some id) (target : ClassId) :
    (cs.find? fun t => t ≠ o ∧ p.idOf? t = some target) =
      if target = id then none else (p.usageScope d cs).component? target := by
  split
  · next ht =>
    subst ht
    refine List.find?_eq_none.2 fun t hm ht => ?_
    obtain ⟨hne, hi'⟩ := of_decide_eq_true ht
    exact hne (h.eq_of_id hm ho hi' hi)
  · next ht =>
    apply Option.ext
    intro t
    rw [(h.lists d).component?_iff]
    constructor
    · intro hf
      have there : t ≠ o ∧ p.idOf? t = some target := by simpa using List.find?_some hf
      exact ⟨List.mem_of_find?_eq_some hf, there.2⟩
    · rintro ⟨hm, hi'⟩
      have away : t ≠ o := by
        rintro rfl
        exact ht (Option.some.inj (hi'.symm.trans hi))
      cases hf : cs.find? fun t => t ≠ o ∧ p.idOf? t = some target with
      | none => exact absurd (decide_eq_true ⟨away, hi'⟩) (List.find?_eq_none.1 hf t hm)
      | some t' =>
        have there : t' ≠ o ∧ p.idOf? t' = some target := by simpa using List.find?_some hf
        rw [h.eq_of_id hm (List.mem_of_find?_eq_some hf) hi' there.2]

/-- The calls of a component itself are the calls in the evidence of its class. -/
theorem ownCalls_eq (hp : p.Indexed) (h : p.Distinct cs) (d : Int) {o : Component} (ho : o ∈ cs) :
    p.ownCalls cs o = (p.idOf? o).toList.flatMap fun id =>
      ((p.usageScope d cs).direct id o).filter (·.kind = .methodCall) := by
  unfold ownCalls
  cases hi : p.idOf? o with
  | none => rfl
  | some id =>
    rw [Option.bind_some, Option.toList_some, List.flatMap_singleton]
    cases hc : p.class? id with
    | none => rw [UsageScope.direct_of_none hc]; rfl
    | some c =>
      have of_class : c.id = id := hp.class_id hc
      rw [UsageScope.filter_methodCall_direct hp hc]
      refine List.flatMap_congr fun method _ => ?_
      rw [UsageScope.callEvidence, UsageScope.sites, UsageScope.linked, List.map_filterMap]
      refine List.filterMap_congr fun site _ => ?_
      rw [h.find?_other d ho hi]
      by_cases ht : site.target = id
      · rw [if_pos ht, if_pos (.inl ht)]
        rfl
      · have away : ¬(site.target = (ownMethod o id c method).id ∨
            site.target = (ownMethod o id c method).owner.id) :=
          fun e => ht (e.elim (fun e => e) fun e => e.trans of_class)
        rw [if_neg ht, if_neg away, Option.map_map]
        rfl

/-- The order of components does not matter to where usage is looked for. -/
theorem Distinct.usageScope_perm (h : p.Distinct cs) (d : Int) {cs' : List Component}
    (perm : cs.Perm cs') : p.usageScope d cs' = p.usageScope d cs := by
  rw [usageScope, h.componentsById_perm perm]
  rfl

theorem ownCalls_perm (hp : p.Indexed) (h : p.Distinct cs) {cs' : List Component}
    (perm : cs.Perm cs') {o : Component} (ho : o ∈ cs) : p.ownCalls cs' o = p.ownCalls cs o := by
  rw [ownCalls_eq hp h 0 ho, ownCalls_eq hp (h.perm perm) 0 (perm.mem_iff.1 ho),
    h.usageScope_perm 0 perm]

/-- Evidence leads from a component to another one. -/
theorem source_ne_target (hp : p.Indexed) (h : p.Distinct cs) {d : Int} {e : Evidence}
    (he : e ∈ (p.findings d cs).filterMap (·.evidence?)) : e.source ≠ e.target := by
  obtain ⟨f, hf, he⟩ := List.mem_filterMap.1 he
  obtain ⟨o, ho, id, hi, hf⟩ := (mem_findings_iff h).1 hf
  have direct : e ∈ (p.usageScope d cs).direct id o := by
    rw [← UsageScope.filterMap_evidence_found (h.lists d) ho hi hp]
    exact List.mem_filterMap.2 ⟨f, hf, he⟩
  obtain ⟨source, id', t, hne, ht, target⟩ := UsageScope.joins_of_mem_direct hp direct
  obtain ⟨hm, hi'⟩ := (h.lists d).component?_iff.1 ht
  intro same
  rw [source, target] at same
  obtain rfl := h.eq_of_name ho hm same
  exact hne (Option.some.inj (hi'.symm.trans hi))

end Program

namespace UsageFinder

/-- **Calls of a component itself.** The calls in the evidence of a component are the call sites of
its methods that lead to other components, in order. They are the same for every order of the
components and every greatest length of chains, and no evidence leads from a component to itself. -/
theorem evidence_ownCalls {p : Program} (hp : p.Indexed) {cs : List Component} (h : p.Distinct cs)
    (d : Int) (history : List (List Component)) {o : Component} (ho : o ∈ cs) :
    (((used p d history).find cs).1.index.evidence.filter fun e =>
        e.kind = .methodCall ∧ e.source = o.name) = p.ownCalls cs o ∧
      (∀ cs', cs.Perm cs' → ∀ d' history',
        (((used p d' history').find cs').1.index.evidence.filter fun e =>
            e.kind = .methodCall ∧ e.source = o.name) =
          ((used p d history).find cs).1.index.evidence.filter fun e =>
            e.kind = .methodCall ∧ e.source = o.name) ∧
      ∀ e ∈ ((used p d history).find cs).1.index.evidence, e.source ≠ e.target := by
  have calls : ∀ cs', cs.Perm cs' → ∀ d' history',
      (((used p d' history').find cs').1.index.evidence.filter fun e =>
        e.kind = .methodCall ∧ e.source = o.name) = p.ownCalls cs o := by
    intro cs' perm d' history'
    have ho' : o ∈ cs' := perm.mem_iff.1 ho
    rw [UsageMatch.evidence_index, findings_find_used hp, ← Program.ownCalls_perm hp h perm ho,
      Program.ownCalls_eq hp (h.perm perm) d' ho', ← List.filter_flatMap,
      ← Program.filter_source_findings hp (h.perm perm) d' ho', List.filter_filter]
    simp only [Bool.decide_and]
  refine ⟨calls cs (.refl cs) d history, fun cs' perm d' history' => ?_, fun e he => ?_⟩
  · rw [calls cs' perm d' history', calls cs (.refl cs) d history]
  · rw [UsageMatch.evidence_index, findings_find_used hp] at he
    exact Program.source_ne_target hp h he

theorem evidence_ownCalls_detour :
    (((used Detour.program 3 [Detour.components]).find Detour.components).1.index.evidence.filter
      fun e => e.kind = .methodCall ∧ e.source = (Detour.component "O").name) =
        [("first", "X", 7), ("second", "Y", 10)].map fun (method, target, line) =>
          { source := "O", target, kind := .methodCall
            location :=
              { file := "/project/app.py", declaration := "O", line, method := some method }
            callChain := ["O." ++ method]
            receiver := some .newObject } :=
  (evidence_ownCalls Detour.indexed Detour.distinct 3 [Detour.components] (by decide)).1.trans <| by
    rw [Detour.program_eq]
    cbv

end UsageFinder

end ArchModel
