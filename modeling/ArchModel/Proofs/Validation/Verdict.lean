import ArchModel.Proofs.Text.Cut
import ArchModel.Validation.Reconcile

/-!
# The verdict on a declared relation

* `Evidence.Holds` says in words what evidence is direct, `ReconcileContext.Trusts` what targets are
  not looked for in the sources.
* `ReconcileContext.Outcome` lists what becomes of a relation whose source exists, and
  `ReconcileContext.check_outcome` says that nothing else does.
* **`ReconcileContext.check_faultless_iff`**: when a relation has no problems, and what its result
  tells besides.
-/

namespace ArchModel

open Text

/-! ## Evidence -/

/-- One component holds the other one: its constructor takes it, a field stores it, or a method of
what is stored is called. -/
def Evidence.Holds (e : Evidence) : Prop :=
  e.kind = .constructor ∨ e.kind = .field ∨ (e.kind = .methodCall ∧ e.receiver = some .field)

theorem Evidence.isDirect_iff {e : Evidence} : e.isDirect = true ↔ e.Holds := by
  unfold isDirect Holds
  cases e.kind <;> simp

theorem classify_eq_none_iff {es : List Evidence} : classify es = none ↔ es = [] := by
  cases es with
  | nil => simp [classify]
  | cons e es =>
    unfold classify
    split <;> simp_all

theorem classify_kind {es : List Evidence} {c : Classification} (h : classify es = some c) :
    c.kind = .direct ↔ ∃ e ∈ es, e.Holds := by
  unfold classify at h
  split at h
  · next e he =>
    obtain rfl := Option.some.inj h
    exact iff_of_true rfl
      ⟨e, List.mem_of_find?_eq_some he, Evidence.isDirect_iff.1 (List.find?_some he)⟩
  · next none _ =>
    obtain rfl := Option.some.inj h
    refine iff_of_false (by simp) fun ⟨e, he, holds⟩ => ?_
    exact List.find?_eq_none.1 none e he (Evidence.isDirect_iff.2 holds)
  · cases h

namespace ReconcileContext

variable {x : ReconcileContext} {names : List String} {usage : UsageIndex} {r : Relation}
  {source target : String}

theorem verdict_eq_none_iff : verdict usage source target = none ↔
    usage.between source target = [] ∧ usage.reached source target = [] := by
  unfold verdict
  cases h : classify (usage.between source target) with
  | none => simp [classify_eq_none_iff.1 h]
  | some c =>
    have seen : usage.between source target ≠ [] := fun e => by
      rw [classify_eq_none_iff.2 e] at h
      cases h
    simp [seen]

/-- The verdict is direct if a component has evidence that it holds the other one. -/
theorem verdict_kind {c : Classification} (h : verdict usage source target = some c) :
    c.kind = .direct ↔ ∃ e ∈ usage.between source target, e.Holds := by
  unfold verdict at h
  split at h
  · next c' found =>
    obtain rfl := Option.some.inj h
    exact classify_kind found
  · next none =>
    obtain ⟨e, -, rfl⟩ := Option.map_eq_some_iff.1 h
    simp [classify_eq_none_iff.1 none]

/-! ## Trust -/

/-- A target that is not looked for in the sources: an external element, a configured target or
another container, or something within one of these, by a dot. -/
def Trusts (x : ReconcileContext) (target : String) : Prop :=
  target ∈ x.external ∨ target ∈ x.targets ∨ target ∈ x.scopes ∧ '.' ∉ target.toList ∨
    ∃ holder rest, target = holder ++ "." ++ rest ∧ '.' ∉ holder.toList ∧
      (holder ∈ x.external ∨ holder ∈ x.targets ∨ holder ∈ x.scopes)

theorem declares_iff : x.declares target = true ↔ target ∈ x.external ∨ target ∈ x.targets := by
  simp [declares]

/-- What stands before a dot, and has none itself, is what stands before the first one. -/
theorem exists_before_dot_iff {P : String → Prop} {a b : List Char}
    (whole : target.toList = a ++ '.' :: b) (first : '.' ∉ a) :
    (∃ holder rest, target = holder ++ "." ++ rest ∧ '.' ∉ holder.toList ∧ P holder) ↔
      P (String.ofList a) := by
  constructor
  · rintro ⟨holder, rest, rfl, none, h⟩
    have parts : (holder ++ "." ++ rest).toList = holder.toList ++ '.' :: rest.toList := by simp
    have same := cut_of_toList parts none
    rw [cut_of_toList whole first] at same
    have holder_eq : String.ofList a = holder := by simpa using (Prod.mk.inj same).1
    rwa [holder_eq]
  · intro h
    refine ⟨String.ofList a, String.ofList b, ?_, by simpa using first, h⟩
    rw [← String.toList_inj, whole]
    simp

theorem trusts_iff : x.trusts target = true ↔ x.Trusts target := by
  unfold trusts Trusts
  by_cases dot : '.' ∈ target.toList
  · obtain ⟨a, b, whole, first⟩ := List.eq_append_cons_of_mem dot
    simp only [cut_of_toList whole first, exists_before_dot_iff whole first, Bool.or_eq_true,
      Bool.and_eq_true, declares_iff, containsChar_iff, dot, true_and, List.contains_iff_mem,
      not_true, and_false, false_or]
    tauto
  · have none : ¬∃ holder rest, target = holder ++ "." ++ rest ∧ '.' ∉ holder.toList ∧
        (holder ∈ x.external ∨ holder ∈ x.targets ∨ holder ∈ x.scopes) := by
      rintro ⟨holder, rest, rfl, -⟩
      simp at dot
    simp only [cut_of_notMem dot, Bool.or_eq_true, Bool.and_eq_true, declares_iff,
      containsChar_iff, dot, false_and, or_false, List.contains_iff_mem, not_false_eq_true,
      and_true, none, or_assoc]

/-! ## Results -/

/-- The fault of a relation with the tags of both kinds. -/
def bothFaults (r : Relation) : List RelationFault := if hasBothKinds r then [.bothKinds] else []

/-- What becomes of a relation whose source exists. -/
inductive Outcome (x : ReconcileContext) (names : List String) (usage : UsageIndex) (r : Relation) :
    RelationResult → Prop
  /-- Its target is not looked for. -/
  | trusted (trust : x.Trusts r.target) : Outcome x names usage r
      { relation := r, targetExists := true, isUsed := true, faults := bothFaults r }
  /-- Its target does not exist. -/
  | missing (noTrust : ¬x.Trusts r.target) (absent : r.target ∉ names) : Outcome x names usage r
      { relation := r, targetExists := false, isUsed := false
        faults := bothFaults r ++ [.missingTarget] }
  /-- The sources show it. -/
  | settled {c : Classification} (noTrust : ¬x.Trusts r.target) (listed : r.target ∈ names)
      (found : verdict usage r.source r.target = some c) : Outcome x names usage r
      (settle r (bothFaults r) c)
  /-- Nothing in the sources shows it. -/
  | unused (noTrust : ¬x.Trusts r.target) (listed : r.target ∈ names)
      (none : verdict usage r.source r.target = none) : Outcome x names usage r
      { relation := r, targetExists := true, isUsed := false, faults := bothFaults r ++ [.unused] }

theorem check_outcome (h : r.source ∈ names) : Outcome x names usage r (x.check names usage r) := by
  unfold check
  dsimp only
  rw [if_neg (by simpa using h)]
  split
  · next trust => exact .trusted (trusts_iff.1 trust)
  · next noTrust =>
    rw [trusts_iff] at noTrust
    split
    · next absent => exact .missing noTrust (by simpa using absent)
    · next listed =>
      have listed : r.target ∈ names := by simpa using listed
      split
      · next c found => exact .settled noTrust listed found
      · next none => exact .unused noTrust listed none

theorem bothFaults_eq_nil_iff :
    bothFaults r = [] ↔ ¬(directTag ∈ r.tags ∧ indirectTag ∈ r.tags) := by
  simp [bothFaults, hasBothKinds]

/-- A relation that its verdict settles has no problems if it carries no tag against it. -/
theorem hasProblems_settle {c : Classification} :
    (settle r (bothFaults r) c).hasProblems = false ↔
      ¬(directTag ∈ r.tags ∧ indirectTag ∈ r.tags) ∧ c.kind.opposite.tag ∉ r.tags := by
  rw [← bothFaults_eq_nil_iff]
  by_cases both : bothFaults r = []
  · by_cases wrong : c.kind.opposite.tag ∈ r.tags <;> simp [settle, RelationResult.hasProblems, *]
  · simp [settle, RelationResult.hasProblems, both]

/-- When a relation has no problems: it does not carry the tags of both kinds, and either its target
is trusted, or it is a component, the sources show the relation, and it carries no tag against what
they show. Its result names a usage only if the target is not trusted, and then the place and the
verdict together; the verdict is direct exactly if the source holds the target. -/
theorem check_faultless_iff (x : ReconcileContext) (components : List Component)
    (usage : UsageIndex) {r : Relation} (h : r.source ∈ Component.names components) :
    let result := x.check (Component.names components) usage r
    let seen := usage.between r.source r.target
    let direct := ∃ e ∈ seen, e.Holds
    (result.hasProblems = false ↔
      ¬(directTag ∈ r.tags ∧ indirectTag ∈ r.tags) ∧
        (x.Trusts r.target ∨
          r.target ∈ Component.names components ∧
          (seen ≠ [] ∨ usage.reached r.source r.target ≠ []) ∧
          (direct → indirectTag ∉ r.tags) ∧ (¬direct → directTag ∉ r.tags))) ∧
    (result.isUsed = true ∧ result.classification = none ↔ x.Trusts r.target) ∧
    (¬x.Trusts r.target →
      (result.usageLocation.isSome = true ↔ result.classification.isSome = true)) ∧
    ∀ c, result.classification = some c → (c.kind = .direct ↔ direct) := by
  dsimp only
  have outcome : Outcome x (Component.names components) usage r
    (x.check (Component.names components) usage r) := check_outcome h
  generalize x.check (Component.names components) usage r = result at outcome
  cases outcome with
  | trusted trust =>
    rw [← bothFaults_eq_nil_iff]
    simp [RelationResult.hasProblems, trust]
  | missing noTrust absent => simp [RelationResult.hasProblems, noTrust, absent]
  | unused noTrust listed none =>
    simp [RelationResult.hasProblems, noTrust, listed, verdict_eq_none_iff.1 none]
  | @settled c noTrust listed found =>
    have shown : usage.between r.source r.target ≠ [] ∨ usage.reached r.source r.target ≠ [] := by
      by_contra none
      rw [verdict_eq_none_iff.2 (by simpa using none)] at found
      cases found
    have kind := verdict_kind found
    refine ⟨?_, by simp [settle, noTrust], fun _ => by simp [settle], fun c' hc => ?_⟩
    · rw [hasProblems_settle]
      simp only [noTrust, listed, shown, false_or, true_and, ← kind]
      cases c.kind <;> simp [RelationKind.opposite, RelationKind.tag]
    · obtain rfl : c = c' := Option.some.inj hc
      exact kind

/-- A relation that the sources show only through the methods of others, and that says so: the call
through a field of another component does not make it direct. -/
theorem check_faultless_iff_reached :
    let place : Location := ⟨"app.py", "C", 7, some "run"⟩
    let components : List Component :=
      [{ name := "A", description := "", location := place },
        { name := "B", description := "", location := place }]
    let usage : UsageIndex := UsageIndex.addReach {} "A"
      { source := "C", target := "B", kind := .methodCall, location := place
        callChain := ["A.run", "C.run"], receiver := some .field }
    let relation : Relation :=
      { source := "A", target := "B", description := "Asks", location := place
        tags := [indirectTag] }
    relation.source ∈ Component.names components ∧
      (check {} (Component.names components) usage relation).hasProblems = false := by
  intro place components usage relation
  have listed : relation.source ∈ Component.names components := by decide
  have none : usage.between relation.source relation.target = [] := by decide
  have faultless := (check_faultless_iff {} components usage listed).1
  refine ⟨listed, faultless.2
    ⟨by decide, .inr ⟨by decide, .inr (by decide), ?_, fun _ => by decide⟩⟩⟩
  rw [none]
  rintro ⟨e, he, -⟩
  cases he

end ReconcileContext

end ArchModel
