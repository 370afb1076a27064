import ArchModel.Proofs.Usage.Declared
import ArchModel.Proofs.Usage.Memory

/-!
# Findings of a finder with a past

What a finder finds among some components depends on the program, the components and the greatest
length of chains alone.

* `UsageFinder.used` is a finder that searched before, any number of times.
* **`UsageFinder.findings_find_used`**: its findings are `Program.findings`, which no past is part
  of.
* `Program.call_mem_findings_iff`: what was met when the calls of a component were followed is found
  in its class.
-/

namespace ArchModel

open Source

namespace Program

/-- Where usage of components is looked for in a program. -/
def usageScope (p : Program) (maxDepth : Int) (cs : List Component) : UsageScope where
  program := p
  component? := (p.componentsById cs).get?
  maxDepth

/-- What is found among components, in order. -/
def findings (p : Program) (maxDepth : Int) (cs : List Component) : List UsageFinding :=
  (p.componentsById cs).toList.flatMap fun x => (p.usageScope maxDepth cs).found x.1 x.2

theorem Distinct.lists {p : Program} {cs : List Component} (h : p.Distinct cs) (maxDepth : Int) :
    (p.usageScope maxDepth cs).Lists cs :=
  ⟨h, rfl⟩

end Program

namespace UsageFinder

/-- A finder that was asked for some lists of components, one after the other. -/
def used (p : Program) (maxDepth : Int) (history : List (List Component)) : UsageFinder :=
  history.foldl (fun f cs => (f.find cs).2) { program := p, maxDepth }

variable {p : Program} (maxDepth : Int)

/-- A finder looks in its program, and its memory is right, whatever it searched before. -/
theorem used_induction (hp : p.Indexed) (history : List (List Component)) :
    (used p maxDepth history).program = p ∧ (used p maxDepth history).maxDepth = maxDepth ∧
      (used p maxDepth history).memory.Remembers p := by
  have run : ∀ (history : List (List Component)) (f : UsageFinder),
      f.program = p → f.maxDepth = maxDepth → f.memory.Remembers p →
      (history.foldl (fun f cs => (f.find cs).2) f).program = p ∧
        (history.foldl (fun f cs => (f.find cs).2) f).maxDepth = maxDepth ∧
        (history.foldl (fun f cs => (f.find cs).2) f).memory.Remembers p := by
    intro history
    induction history with
    | nil => exact fun f h h' hm => ⟨h, h', hm⟩
    | cons cs history ih =>
      rintro f rfl h' hm
      exact ih _ rfl h' (find_findings hp hm cs).2
  exact run history _ rfl rfl ⟨by simp, by simp⟩

variable {maxDepth} in
/-- What a finder searched before does not matter to what it finds. -/
theorem findings_find_used (hp : p.Indexed) (history : List (List Component))
    (cs : List Component) :
    ((used p maxDepth history).find cs).1.findings = p.findings maxDepth cs := by
  obtain ⟨program, depth, hm⟩ := used_induction maxDepth hp history
  generalize used p maxDepth history = f at *
  subst program depth
  exact (find_findings hp hm cs).1

end UsageFinder

/-! ## Whose findings they are -/

namespace UsageScope

variable {s : UsageScope} {m : SourceModule} {c : ClassInfo} {id : ClassId} {source : Component}

theorem mem_foldl_walkMethod {methods : List (String × Function)}
    {x : List UsageFinding × CallWalk} {f : UsageFinding}
    (h : f ∈ (methods.foldl (s.walkMethod m c id source) x).1) :
    f ∈ x.1 ∨ s.Declares c source f ∨ ∃ event, f = .call source.name event := by
  induction methods generalizing x with
  | nil => exact .inl h
  | cons method methods ih =>
    rcases ih h with h | h
    · rcases List.mem_append.1 h with h | h
      · rcases List.mem_append.1 h with h | h
        · exact .inl h
        · exact .inr (.inl (declares_of_mem_signatureEvidence h))
      · obtain ⟨event, -, rfl⟩ := List.mem_map.1 h
        exact .inr (.inr ⟨event, rfl⟩)
    · exact .inr h

/-- What is found in the class of a component is named in a declaration of the class, or was met
when the calls of the component were followed. -/
theorem mem_found {f : UsageFinding} (h : f ∈ s.found id source) :
    (∃ c, s.program.class? id = some c ∧ s.Declares c source f) ∨
      ∃ event, f = .call source.name event := by
  unfold found at h
  split at h
  · cases h
  · next c hc =>
    split at h
    · cases h
    · rcases List.mem_append.1 h with h | h
      · rcases List.mem_append.1 h with h | h
        · exact .inl ⟨c, hc, declares_of_mem_constructorEvidence h⟩
        · exact .inl ⟨c, hc, declares_of_mem_fieldEvidence h⟩
      · rcases mem_foldl_walkMethod h with h | h | h
        · cases h
        · exact .inl ⟨c, hc, h⟩
        · exact .inr h

end UsageScope

namespace Program

variable {p : Program} {maxDepth : Int} {cs : List Component}

theorem mem_findings_iff (h : p.Distinct cs) {f : UsageFinding} :
    f ∈ p.findings maxDepth cs ↔
      ∃ o ∈ cs, ∃ id, p.idOf? o = some id ∧ f ∈ (p.usageScope maxDepth cs).found id o := by
  simp only [findings, List.mem_flatMap, Prod.exists, ← Entries.get?_eq_some_iff,
    h.componentsById_iff]
  constructor
  · rintro ⟨id, o, ⟨ho, hi⟩, hf⟩
    exact ⟨o, ho, id, hi, hf⟩
  · rintro ⟨o, ho, id, hi, hf⟩
    exact ⟨id, o, ⟨ho, hi⟩, hf⟩

/-- What was met when the calls of a component were followed is found in its class. -/
theorem call_mem_findings_iff (h : p.Distinct cs) {o : Component} (ho : o ∈ cs)
    {event : CallEvent} :
    .call o.name event ∈ p.findings maxDepth cs ↔ ∃ id, p.idOf? o = some id ∧
      .call o.name event ∈ (p.usageScope maxDepth cs).found id o := by
  rw [mem_findings_iff h]
  constructor
  · rintro ⟨o', ho', id, hi, hf⟩
    rcases UsageScope.mem_found hf with ⟨_, -, _, he, -⟩ | ⟨_, he⟩
    · cases he
    · obtain rfl := h.eq_of_name ho ho' (UsageFinding.call.inj he).1
      exact ⟨id, hi, hf⟩
  · rintro ⟨id, hi, hf⟩
    exact ⟨o, ho, id, hi, hf⟩

end Program

end ArchModel
