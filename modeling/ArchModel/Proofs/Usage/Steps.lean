import ArchModel.Proofs.Entries
import ArchModel.Usage.Index

/-!
# Indexes that are built step by step

An index tells what was added to it, in the order in which it was added.

* `UsageStep` adds one piece of evidence, or one piece of what a component reaches;
  `UsageIndex.ofSteps` is the index that some steps make.
* `UsageIndex.evidence_ofSteps`, `between_ofSteps` and `pairs_ofSteps`: evidence is kept in order,
  for each pair and as a whole, and pairs are listed by their first piece.
* `UsageIndex.reached_ofSteps`: what a component reaches is kept apart, without repetition.
* `UsageIndex.Within` compares two indexes by what they hold, whatever the order.
-/

namespace ArchModel

/-- An addition to an index. -/
inductive UsageStep
  /-- Evidence. -/
  | add (e : Evidence)
  /-- What a component reaches through the methods of others. -/
  | addReach (origin : String) (e : Evidence)
  deriving DecidableEq, Repr

namespace UsageStep

/-- The evidence that a step adds. -/
def evidence? : UsageStep → Option Evidence
  | add e => some e
  | addReach _ _ => none

/-- The evidence that a step adds to what one component reaches of another. -/
def reach? (origin target : String) : UsageStep → Option Evidence
  | add _ => none
  | addReach o e => if o = origin ∧ e.target = target ∧ origin ≠ target then some e else none

end UsageStep

namespace Evidence

/-- The components that evidence joins. -/
def pair (e : Evidence) : String × String := (e.source, e.target)

/-- A piece of evidence from one component to another. -/
def joins (source target : String) (e : Evidence) : Bool :=
  e.source = source ∧ e.target = target

theorem joins_iff {source target : String} {e : Evidence} :
    e.joins source target = true ↔ e.pair = (source, target) := by
  simp [joins, pair]

end Evidence

namespace UsageIndex

/-- The index after a step. -/
def apply (u : UsageIndex) : UsageStep → UsageIndex
  | .add e => u.add e
  | .addReach origin e => u.addReach origin e

/-- The index that some steps make. -/
def ofSteps (steps : List UsageStep) : UsageIndex := steps.foldl apply {}

/-- A list with something added at its end, unless it is there. -/
def addNew {α : Type u} [DecidableEq α] (l : List α) (a : α) : List α :=
  if a ∈ l then l else l ++ [a]

/-! ## One step -/

section step

variable (u : UsageIndex) (s : UsageStep) (source target : String)

theorem between_add (e : Evidence) :
    (u.add e).between source target =
      u.between source target ++ [e].filter (·.joins source target) := by
  rw [between, add, Entries.get?_insert]
  by_cases h : (e.source, e.target) = (source, target)
  · obtain ⟨rfl, rfl⟩ := Prod.mk.inj h
    simp [Evidence.joins, between]
  · have apart : ¬e.joins source target := by simpa [Evidence.joins] using h
    simp [h, apart, between]

theorem between_addReach (origin : String) (e : Evidence) :
    (u.addReach origin e).between source target = u.between source target := by
  unfold addReach
  split <;> rfl

theorem evidence_addReach (origin : String) (e : Evidence) :
    (u.addReach origin e).evidence = u.evidence := by
  unfold addReach
  split <;> rfl

theorem pairs_add (e : Evidence) : (u.add e).pairs = addNew u.pairs e.pair :=
  Entries.keys_insert ..

theorem pairs_addReach (origin : String) (e : Evidence) :
    (u.addReach origin e).pairs = u.pairs := by
  unfold addReach
  split <;> rfl

theorem reached_add (e : Evidence) :
    (u.add e).reached source target = u.reached source target := rfl

theorem reached_addReach (o : String) (e : Evidence) (origin target : String) :
    (u.addReach o e).reached origin target =
      ((UsageStep.addReach o e).reach? origin target).toList.foldl addNew
        (u.reached origin target) := by
  unfold addReach
  by_cases ho : o = e.target
  · have none : ¬(o = origin ∧ e.target = target ∧ origin ≠ target) := by
      rintro ⟨rfl, rfl, hne⟩
      exact hne ho
    simp [ho, UsageStep.reach?, ho ▸ none]
  · rw [if_neg ho]
    by_cases h : (o, e.target) = (origin, target)
    · obtain ⟨rfl, rfl⟩ := Prod.mk.inj h
      simp [reached, UsageStep.reach?, ho, addNew]
    · have none : ¬(o = origin ∧ e.target = target ∧ origin ≠ target) :=
        fun hc => h (Prod.ext hc.1 hc.2.1)
      simp [reached, UsageStep.reach?, none, h]

theorem evidence_apply : (u.apply s).evidence = u.evidence ++ s.evidence?.toList := by
  cases s with
  | add e => rfl
  | addReach o e => simp [apply, UsageStep.evidence?, evidence_addReach]

theorem between_apply : (u.apply s).between source target =
    u.between source target ++ s.evidence?.toList.filter (·.joins source target) := by
  cases s with
  | add e => exact u.between_add source target e
  | addReach o e => simp [apply, UsageStep.evidence?, between_addReach]

theorem pairs_apply :
    (u.apply s).pairs = (s.evidence?.toList.map Evidence.pair).foldl addNew u.pairs := by
  cases s with
  | add e => exact u.pairs_add e
  | addReach o e => exact u.pairs_addReach o e

theorem reached_apply : (u.apply s).reached source target =
    (s.reach? source target).toList.foldl addNew (u.reached source target) := by
  cases s with
  | add e => exact u.reached_add source target e
  | addReach o e => exact u.reached_addReach o e source target

end step

/-! ## All steps -/

theorem filterMap_cons_toList {α : Type u} {β : Type v} (g : α → Option β) (a : α) (l : List α) :
    (a :: l).filterMap g = (g a).toList ++ l.filterMap g := by
  rw [List.filterMap_cons]
  cases g a <;> rfl

section steps

variable (steps : List UsageStep) (u : UsageIndex) (source target : String)

theorem evidence_foldl_apply :
    (steps.foldl apply u).evidence = u.evidence ++ steps.filterMap (·.evidence?) := by
  induction steps generalizing u with
  | nil => simp
  | cons s steps ih =>
    rw [List.foldl_cons, ih, evidence_apply, filterMap_cons_toList, List.append_assoc]

theorem between_foldl_apply :
    (steps.foldl apply u).between source target = u.between source target ++
      (steps.filterMap (·.evidence?)).filter (·.joins source target) := by
  induction steps generalizing u with
  | nil => simp
  | cons s steps ih =>
    rw [List.foldl_cons, ih, between_apply, filterMap_cons_toList, List.filter_append,
      List.append_assoc]

theorem pairs_foldl_apply : (steps.foldl apply u).pairs =
    ((steps.filterMap (·.evidence?)).map Evidence.pair).foldl addNew u.pairs := by
  induction steps generalizing u with
  | nil => rfl
  | cons s steps ih =>
    rw [List.foldl_cons, ih, pairs_apply, filterMap_cons_toList, List.map_append,
      List.foldl_append]

theorem reached_foldl_apply : (steps.foldl apply u).reached source target =
    (steps.filterMap (·.reach? source target)).foldl addNew (u.reached source target) := by
  induction steps generalizing u with
  | nil => rfl
  | cons s steps ih =>
    rw [List.foldl_cons, ih, reached_apply, filterMap_cons_toList, List.foldl_append]

/-- The evidence of an index is what was added, in order. -/
theorem evidence_ofSteps : (ofSteps steps).evidence = steps.filterMap (·.evidence?) :=
  evidence_foldl_apply steps {}

/-- The evidence of a pair is what was added with this source and target, in order. -/
theorem between_ofSteps : (ofSteps steps).between source target =
    (ofSteps steps).evidence.filter (·.joins source target) := by
  rw [evidence_ofSteps]
  exact between_foldl_apply steps {} source target

/-- The pairs are those of the evidence, each at the place of its first piece. -/
theorem pairs_ofSteps :
    (ofSteps steps).pairs = dedupe ((ofSteps steps).evidence.map Evidence.pair) := by
  rw [evidence_ofSteps]
  exact pairs_foldl_apply steps {}

theorem nodup_pairs : (ofSteps steps).pairs.Nodup := pairs_ofSteps steps ▸ nodup_dedupe _

theorem between_eq_filter_pair (p : String × String) :
    (ofSteps steps).between p.1 p.2 = (ofSteps steps).evidence.filter (·.pair = p) := by
  rw [between_ofSteps]
  exact List.filter_congr fun e _ => Bool.eq_iff_iff.2 (by simp [Evidence.joins_iff])

/-- What one component reaches of another is what was added for them, without repetition. -/
theorem reached_ofSteps : (ofSteps steps).reached source target =
    dedupe (steps.filterMap (·.reach? source target)) :=
  reached_foldl_apply steps {} source target

end steps

section ofSteps

variable {steps : List UsageStep} {source target : String} {e : Evidence}

theorem mem_between_iff : e ∈ (ofSteps steps).between source target ↔
    e ∈ (ofSteps steps).evidence ∧ e.pair = (source, target) := by
  rw [between_ofSteps, List.mem_filter, Evidence.joins_iff]

theorem mem_pairs_iff :
    (source, target) ∈ (ofSteps steps).pairs ↔ (ofSteps steps).between source target ≠ [] := by
  rw [pairs_ofSteps, mem_dedupe, List.mem_map]
  constructor
  · rintro ⟨e, he, joined⟩
    exact List.ne_nil_of_mem (mem_between_iff.2 ⟨he, joined⟩)
  · intro used
    obtain ⟨e, he⟩ := List.exists_mem_of_ne_nil _ used
    exact ⟨e, mem_between_iff.1 he⟩

/-- The pairs are listed in the order in which they were first given evidence. -/
theorem pairs_in_order (steps : List UsageStep) :
    let added := (steps.filterMap (·.evidence?)).map Evidence.pair
    (ofSteps steps).pairs.Pairwise fun p q => added.idxOf p < added.idxOf q := by
  intro added
  rw [pairs_ofSteps, evidence_ofSteps]
  exact pairwise_idxOf_dedupe added

end ofSteps

/-! ## Comparison -/

/-- All that one index holds is also in another one, in whatever order and with whatever else. -/
structure Within (u v : UsageIndex) : Prop where
  evidence : ∀ e ∈ u.evidence, e ∈ v.evidence
  reached : ∀ origin target, ∀ e ∈ u.reached origin target, e ∈ v.reached origin target

/-- What some steps add is within what these and others add, in whatever order. -/
theorem Within.of_steps {us vs : List UsageStep} (h : ∀ s ∈ us, s ∈ vs) :
    (ofSteps us).Within (ofSteps vs) := by
  constructor
  · intro e he
    rw [evidence_ofSteps, List.mem_filterMap] at he ⊢
    obtain ⟨s, hs, added⟩ := he
    exact ⟨s, h s hs, added⟩
  · intro origin target e he
    rw [reached_ofSteps, mem_dedupe, List.mem_filterMap] at he ⊢
    obtain ⟨s, hs, added⟩ := he
    exact ⟨s, h s hs, added⟩

theorem Within.between {us vs : List UsageStep} (h : (ofSteps us).Within (ofSteps vs))
    {source target : String} {e : Evidence} (he : e ∈ (ofSteps us).between source target) :
    e ∈ (ofSteps vs).between source target := by
  rw [mem_between_iff] at he ⊢
  exact ⟨h.evidence e he.1, he.2⟩

end UsageIndex

end ArchModel
