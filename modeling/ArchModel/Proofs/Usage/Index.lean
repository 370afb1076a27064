import ArchModel.Usage.Match
import ArchModel.Proofs.Usage.Steps

/-!
# What an index holds

The index of a match says nothing but what was found.

* `UsageFinding.evidence?` is the evidence that a finding adds, `UsageFinding.reach?` what it adds
  to the reach of a component. `UsageFinding.step?` is the step that it makes of an index, so that
  the index of a match is made by steps (`UsageMatch.index_eq_ofSteps`).
* `UsageMatch.evidence_index`: the evidence of the index is that of the findings, in order.
* `UsageMatch.between_index`: the evidence of a pair is what of it has this source and target.
* `UsageMatch.reached_index`: what one component reaches of another is what was found of it, without
  repetition.
-/

namespace ArchModel

/-- The evidence of a call by the component that the search starts from. -/
def CallEvent.own? : CallEvent → Option Evidence
  | own e => some e
  | reach _ => none
  | capped _ => none

namespace UsageFinding

/-- The evidence that a finding adds. -/
def evidence? : UsageFinding → Option Evidence
  | .declared e => some e
  | .call _ event => event.own?

/-- The evidence that a finding adds to what one component reaches of another. -/
def reach? (origin target : String) : UsageFinding → Option Evidence
  | .call o (.reach e) => if o = origin ∧ e.target = target ∧ origin ≠ target then some e else none
  | _ => none

theorem reach?_eq_some_iff {origin target : String} {f : UsageFinding} {e : Evidence} :
    f.reach? origin target = some e ↔
      f = .call origin (.reach e) ∧ e.target = target ∧ origin ≠ target := by
  unfold reach?
  split
  · next o e' =>
    constructor
    · intro h
      split at h
      · next hc =>
        obtain rfl := Option.some.inj h
        exact ⟨hc.1 ▸ rfl, hc.2⟩
      · cases h
    · rintro ⟨h, ht⟩
      cases h
      exact if_pos ⟨rfl, ht⟩
  · next hf =>
    constructor
    · intro h
      cases h
    · rintro ⟨rfl, -⟩
      exact absurd rfl (hf origin e)

/-- The step that a finding makes of an index. That a chain was cut off is none. -/
def step? : UsageFinding → Option UsageStep
  | .declared e => some (.add e)
  | .call _ (.own e) => some (.add e)
  | .call origin (.reach e) => some (.addReach origin e)
  | .call _ (.capped _) => none

theorem evidence?_eq (f : UsageFinding) : f.evidence? = f.step?.bind (·.evidence?) := by
  rcases f with e | ⟨o, e | e | labels⟩ <;> rfl

theorem reach?_eq (f : UsageFinding) (origin target : String) :
    f.reach? origin target = f.step?.bind (·.reach? origin target) := by
  rcases f with e | ⟨o, e | e | labels⟩ <;> rfl

end UsageFinding

namespace UsageMatch

theorem foldl_collect (fs : List UsageFinding) (u : UsageIndex) :
    fs.foldl collect u = (fs.filterMap (·.step?)).foldl UsageIndex.apply u := by
  induction fs generalizing u with
  | nil => rfl
  | cons f fs ih =>
    have one : collect u f = f.step?.toList.foldl UsageIndex.apply u := by
      rcases f with e | ⟨o, e | e | labels⟩ <;> rfl
    rw [List.foldl_cons, ih, one, UsageIndex.filterMap_cons_toList, List.foldl_append]

/-- The index of a match is made by the steps of the findings. -/
theorem index_eq_ofSteps (m : UsageMatch) :
    m.index = .ofSteps (m.findings.filterMap (·.step?)) :=
  foldl_collect m.findings {}

/-- The evidence of the index is that of the findings, in order. -/
theorem evidence_index (m : UsageMatch) :
    m.index.evidence = m.findings.filterMap (·.evidence?) := by
  rw [index_eq_ofSteps, UsageIndex.evidence_ofSteps, List.filterMap_filterMap]
  simp only [UsageFinding.evidence?_eq]

/-- The evidence of a pair is that of the findings with this source and target. -/
theorem between_index (m : UsageMatch) (source target : String) :
    m.index.between source target =
      (m.findings.filterMap (·.evidence?)).filter (·.joins source target) := by
  rw [← evidence_index, index_eq_ofSteps, UsageIndex.between_ofSteps]

/-- What one component reaches of another is what was found of it, without repetition. -/
theorem reached_index (m : UsageMatch) (origin target : String) :
    m.index.reached origin target = dedupe (m.findings.filterMap (·.reach? origin target)) := by
  rw [index_eq_ofSteps, UsageIndex.reached_ofSteps, List.filterMap_filterMap]
  simp only [UsageFinding.reach?_eq]

end UsageMatch

end ArchModel
