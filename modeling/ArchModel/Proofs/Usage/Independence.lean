import ArchModel.Proofs.Usage.Evidence

/-!
# What usage does not depend on

What is between two components depends on the program and these two alone, and what one component
reaches of another on the program, the components and the greatest length of chains, but not on
their order.

* `Program.usageOf` is where usage of one component is looked for.
  `Program.filter_joins_findings` says that all evidence from one component to another is found
  there.
* `Program.filterMap_reach_findings`: what a component reaches is found in its own class.
* **`UsageFinder.usage_independent`** is the result for finders with any past.
-/

namespace ArchModel

open Source

namespace Program

variable {p : Program} {cs : List Component}

/-! ## Evidence between two components -/

/-- Where usage of one component is looked for in a program. -/
def usageOf (p : Program) (t : Component) : UsageScope where
  program := p
  component? id := if p.idOf? t = some id then some t else none
  maxDepth := 0

theorem Distinct.only_usageScope (h : p.Distinct cs) (d : Int) {t : Component} (ht : t ∈ cs) :
    (p.usageScope d cs).only t.name = p.usageOf t := by
  have same : ((p.usageScope d cs).only t.name).component? = (p.usageOf t).component? := by
    funext id
    apply Option.ext
    intro c
    have left : ((p.usageScope d cs).only t.name).component? id = some c ↔
        (p.usageScope d cs).component? id = some c ∧ c.name = t.name := by
      simp [UsageScope.only, Option.filter_eq_some_iff]
    have right : (p.usageOf t).component? id = some c ↔ p.idOf? t = some id ∧ t = c := by
      simp [usageOf]
    rw [left, right, (h.lists d).component?_iff]
    constructor
    · rintro ⟨⟨hc, hi⟩, hn⟩
      obtain rfl := h.eq_of_name ht hc hn.symm
      exact ⟨hi, rfl⟩
    · rintro ⟨hi, rfl⟩
      exact ⟨⟨ht, hi⟩, rfl⟩
  exact congrArg (fun look => UsageScope.mk p look 0) same

/-- All evidence from one component to another is found where the other one alone is looked for. -/
theorem filter_joins_findings (hp : p.Indexed) (h : p.Distinct cs) (d : Int) {s t : Component}
    (hs : s ∈ cs) (ht : t ∈ cs) :
    ((p.findings d cs).filterMap (·.evidence?)).filter (·.joins s.name t.name) =
      (p.idOf? s).toList.flatMap fun id => (p.usageOf t).direct id s := by
  have split : ((p.findings d cs).filterMap (·.evidence?)).filter (·.joins s.name t.name) =
      (((p.findings d cs).filterMap (·.evidence?)).filter (·.source = s.name)).filter
        (·.target = t.name) := by
    rw [List.filter_filter]
    refine List.filter_congr fun e _ => ?_
    rw [Evidence.joins, Bool.decide_and, Bool.and_comm]
  rw [split, filter_source_findings hp h d hs, List.filter_flatMap]
  refine List.flatMap_congr fun id _ => ?_
  rw [UsageScope.filter_direct, h.only_usageScope d ht]

/-! ## Reach -/

theorem reach?_eq_none {s : UsageScope} {id : ClassId} {o : Component} {origin target : String}
    (hn : o.name ≠ origin) {f : UsageFinding} (hf : f ∈ s.found id o) :
    f.reach? origin target = none := by
  refine Option.eq_none_iff_forall_ne_some.2 fun e he => ?_
  obtain ⟨rfl, -⟩ := UsageFinding.reach?_eq_some_iff.1 he
  rcases UsageScope.mem_found hf with ⟨_, -, _, he, -⟩ | ⟨_, he⟩
  · cases he
  · exact hn (UsageFinding.call.inj he).1.symm

/-- What a component reaches is found in its own class. -/
theorem filterMap_reach_findings (h : p.Distinct cs) (d : Int) {o : Component} (ho : o ∈ cs)
    (target : String) :
    (p.findings d cs).filterMap (·.reach? o.name target) =
      (p.idOf? o).toList.flatMap fun id =>
        ((p.usageScope d cs).found id o).filterMap (·.reach? o.name target) := by
  rw [findings, List.filterMap_flatMap, h.flatMap_componentsById ho]
  intro x hx hne
  refine List.filterMap_eq_nil_iff.2 fun f hf => reach?_eq_none (fun hn => hne ?_) hf
  exact h.eq_of_name (h.mem_componentsById_iff.1 hx).1 ho hn

theorem filterMap_reach_findings_perm (h : p.Distinct cs) (d : Int) {cs' : List Component}
    (perm : cs.Perm cs') (origin target : String) :
    (p.findings d cs').filterMap (·.reach? origin target) =
      (p.findings d cs).filterMap (·.reach? origin target) := by
  by_cases hn : ∃ o ∈ cs, o.name = origin
  · obtain ⟨o, ho, rfl⟩ := hn
    rw [filterMap_reach_findings h d ho, filterMap_reach_findings (h.perm perm) d
      (perm.mem_iff.1 ho), h.usageScope_perm d perm]
  · have none : ∀ {cs'}, p.Distinct cs' → (∀ o ∈ cs', o ∈ cs) →
        (p.findings d cs').filterMap (·.reach? origin target) = [] := by
      intro cs' h' sub
      refine List.filterMap_eq_nil_iff.2 fun f hf => ?_
      obtain ⟨o, ho, id, -, hf⟩ := (mem_findings_iff h').1 hf
      exact reach?_eq_none (fun e => hn ⟨o, sub o ho, e⟩) hf
    rw [none h fun _ ho => ho, none (h.perm perm) fun _ ho => perm.mem_iff.2 ho]

end Program

namespace UsageFinder

/-- **What usage does not depend on.** The evidence between two components is the same for all lists
that hold both, and what components reach of each other is the same for all orders of one list,
whatever the finders searched before. -/
theorem usage_independent {p : Program} (hp : p.Indexed) {cs : List Component}
    (h : p.Distinct cs) :
    (∀ cs', p.Distinct cs' → ∀ s t, s ∈ cs → t ∈ cs → s ∈ cs' → t ∈ cs' →
      ∀ d d' history history',
        ((used p d history).find cs).1.index.between s.name t.name =
          ((used p d' history').find cs').1.index.between s.name t.name) ∧
    ∀ cs', cs.Perm cs' → ∀ d history history' origin target,
      ((used p d history).find cs).1.index.reached origin target =
        ((used p d history').find cs').1.index.reached origin target := by
  refine ⟨fun cs' h' s t hs ht hs' ht' d d' history history' => ?_,
    fun cs' perm d history history' origin target => ?_⟩
  · rw [UsageMatch.between_index, UsageMatch.between_index, findings_find_used hp,
      findings_find_used hp, Program.filter_joins_findings hp h d hs ht,
      Program.filter_joins_findings hp h' d' hs' ht']
  · rw [UsageMatch.reached_index, UsageMatch.reached_index, findings_find_used hp,
      findings_find_used hp, Program.filterMap_reach_findings_perm h d perm]

theorem usage_independent_detour :
    ((used Detour.program 3 []).find Detour.components).1.index.between "Y" "Z" =
        ((used Detour.program 1 [Detour.components]).find
          [Detour.component "Z", Detour.component "Y"]).1.index.between "Y" "Z" ∧
      ((used Detour.program 6 []).find Detour.components).1.index.reached "O" "T" =
        ((used Detour.program 6 [[Detour.component "T"]]).find
          Detour.components.reverse).1.index.reached "O" "T" := by
  have all := usage_independent Detour.indexed Detour.distinct
  have two : Detour.program.Distinct (["Z", "Y"].map Detour.component) :=
    Detour.distinct_map (by decide) (by decide)
  exact ⟨all.1 _ two (Detour.component "Y") (Detour.component "Z") (by decide) (by decide)
    (by decide) (by decide) 3 1 [] [Detour.components],
    all.2 _ (List.reverse_perm _).symm 6 [] [[Detour.component "T"]] "O" "T"⟩

end UsageFinder

end ArchModel
