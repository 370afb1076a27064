import ArchModel.Proofs.Usage.Index

/-!
# What declarations name

What is found in the constructor, the fields and the signatures of a class.

* `UsageScope.Declares` says what all of it has in common: where it comes from, that it is no call,
  and that it leads to another class (`declares_of_mem_constructorEvidence`,
  `declares_of_mem_fieldEvidence`, `declares_of_mem_signatureEvidence`).
* `UsageScope.only` is the scope that is left if components of one name alone are looked for. What
  is found of them in a wider scope is what is found there (`filter_declaredEvidence` and those
  behind it).
-/

namespace ArchModel

open Source

namespace UsageScope

variable {s : UsageScope} {m : SourceModule} {c : ClassInfo} {source : Component}

/-! ## Findings in declarations -/

/-- A finding names a component of another class in a declaration of a class. -/
def Declares (s : UsageScope) (c : ClassInfo) (source : Component) (f : UsageFinding) : Prop :=
  ∃ e, f = .declared e ∧ e.source = source.name ∧ e.kind ≠ .methodCall ∧
    ∃ id t, id ≠ c.id ∧ s.component? id = some t ∧ e.target = t.name

theorem declares_of_mem_declaredEvidence {kind : UsageKind} (hk : kind ≠ .methodCall)
    {types : List ClassId} {line : Nat} {method : Option String} {f : UsageFinding}
    (h : f ∈ s.declaredEvidence c source kind types line method) : s.Declares c source f := by
  obtain ⟨id, -, h⟩ := List.mem_filterMap.1 h
  split at h
  · cases h
  · next hid =>
    obtain ⟨t, ht, rfl⟩ := Option.map_eq_some_iff.1 h
    exact ⟨_, rfl, rfl, hk, id, t, hid, ht, rfl⟩

theorem declares_of_mem_paramEvidence {kind : UsageKind} (hk : kind ≠ .methodCall) {name : String}
    {g : Function} {f : UsageFinding} (h : f ∈ s.paramEvidence m c source kind name g) :
    s.Declares c source f := by
  obtain ⟨a, -, h⟩ := List.mem_flatMap.1 h
  exact declares_of_mem_declaredEvidence hk h

theorem declares_of_mem_constructorEvidence {f : UsageFinding}
    (h : f ∈ s.constructorEvidence m c source) : s.Declares c source f := by
  unfold constructorEvidence at h
  split at h
  · exact declares_of_mem_paramEvidence (by simp) h
  · cases h

theorem declares_of_mem_fieldEvidence {fields : Fields} {f : UsageFinding}
    (h : f ∈ s.fieldEvidence c source fields) : s.Declares c source f := by
  obtain ⟨a, -, h⟩ := List.mem_flatMap.1 h
  exact declares_of_mem_declaredEvidence (by simp) h

theorem declares_of_mem_signatureEvidence {name : String} {g : Function} {f : UsageFinding}
    (h : f ∈ s.signatureEvidence m c source name g) : s.Declares c source f := by
  unfold signatureEvidence at h
  split at h
  · cases h
  · rcases List.mem_append.1 h with h | h
    · exact declares_of_mem_paramEvidence (by simp) h
    · exact declares_of_mem_declaredEvidence (by simp) h

/-! ## Components of one name -/

/-- The scope in which components of one name alone are looked for and no calls are followed. -/
def only (s : UsageScope) (name : String) : UsageScope where
  program := s.program
  component? id := (s.component? id).filter (·.name = name)
  maxDepth := 0

/-- A finding adds evidence of components of a name. -/
def leadsTo (name : String) (f : UsageFinding) : Bool :=
  match f.evidence? with
  | some e => e.target = name
  | none => false

/-- Components of one name are what is left of what is made of components. -/
theorem filter_map_component? {β : Type u} {make : Component → β} {q : β → Bool} {name : String}
    (hq : ∀ t, q (make t) = decide (t.name = name)) (id : ClassId) :
    ((s.component? id).map make).filter q = ((s.only name).component? id).map make := by
  dsimp only [only]
  cases s.component? id with
  | none => rfl
  | some t =>
    rw [Option.map_some, Option.filter_some, Option.filter_some, hq]
    split <;> rfl

theorem filter_declaredEvidence (kind : UsageKind) (types : List ClassId) (line : Nat)
    (method : Option String) (name : String) :
    (s.declaredEvidence c source kind types line method).filter (leadsTo name) =
      (s.only name).declaredEvidence c source kind types line method := by
  rw [declaredEvidence, declaredEvidence, List.filter_filterMap]
  refine List.filterMap_congr fun id _ => ?_
  split
  · rfl
  · exact filter_map_component? (fun _ => rfl) id

theorem filter_paramEvidence (kind : UsageKind) (method : String) (g : Function) (name : String) :
    (s.paramEvidence m c source kind method g).filter (leadsTo name) =
      (s.only name).paramEvidence m c source kind method g := by
  rw [paramEvidence, paramEvidence, List.filter_flatMap]
  exact List.flatMap_congr fun a _ => filter_declaredEvidence ..

theorem filter_constructorEvidence (name : String) :
    (s.constructorEvidence m c source).filter (leadsTo name) =
      (s.only name).constructorEvidence m c source := by
  unfold constructorEvidence
  split
  · exact filter_paramEvidence ..
  · rfl

theorem filter_fieldEvidence (fields : Fields) (name : String) :
    (s.fieldEvidence c source fields).filter (leadsTo name) =
      (s.only name).fieldEvidence c source fields := by
  rw [fieldEvidence, fieldEvidence, List.filter_flatMap]
  exact List.flatMap_congr fun a _ => filter_declaredEvidence ..

theorem filter_signatureEvidence (method : String) (g : Function) (name : String) :
    (s.signatureEvidence m c source method g).filter (leadsTo name) =
      (s.only name).signatureEvidence m c source method g := by
  unfold signatureEvidence
  split
  · rfl
  · rw [List.filter_append, filter_paramEvidence, filter_declaredEvidence]
    rfl

end UsageScope

end ArchModel
