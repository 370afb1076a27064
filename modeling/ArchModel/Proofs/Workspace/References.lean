import ArchModel.Proofs.Workspace.Links

/-!
# Where references lead

A text refers to a container, or to a component of one, by the part in front of its first dot and
by what stands behind it.

* `Reference.ofText_of_notMem` and `Reference.ofText_append` read the two forms of a text; a text
  has one of them (`Reference.ofText_cases`).
* `ScopeNames.resolve?_iff_reaches`: the texts that lead to something are the names of containers,
  alone or followed by a dot and either nothing or the name of a component (`Scope.Reaches`).
* `ScopeNames.misses_iff`: a target that names a container leads to something unless it names a
  component that the container lacks (`Scope.Lacks`).
-/

namespace ArchModel

open Text

/-! ## Reading -/

namespace Reference

theorem ofText_of_notMem {s : String} (h : '.' ∉ s.toList) : ofText s = ⟨s, none⟩ := by
  rw [ofText, cut_of_notMem h]
  rfl

theorem ofText_append {container : String} (h : '.' ∉ container.toList) (rest : String) :
    ofText (container ++ "." ++ rest) =
      ⟨container, if rest = "" then none else some rest⟩ := by
  have form : (container ++ "." ++ rest).toList = container.toList ++ '.' :: rest.toList := by
    simp
  rw [ofText, cut_of_toList form h, String.ofList_toList, String.ofList_toList]

/-- A text has no dot, or there is a first one. -/
theorem ofText_cases (s : String) : '.' ∉ s.toList ∨
    ∃ container rest, '.' ∉ container.toList ∧ s = container ++ "." ++ rest := by
  cases found : cutChars '.' s.toList with
  | none => exact .inl (cutChars_eq_none_iff.1 found)
  | some parts =>
    obtain ⟨form, free⟩ := cutChars_eq_some_iff.1 found
    refine .inr ⟨String.ofList parts.1, String.ofList parts.2, by simpa using free, ?_⟩
    exact String.toList_inj.1 (by simp [form])

end Reference

namespace Scope

/-- A text is the name of the container, or that name followed by a dot and either nothing or the
name of a component. -/
def Reaches (t : Scope) (target : String) : Prop :=
  '.' ∉ t.name.toList ∧ (target = t.name ∨ ∃ rest, target = t.name ++ "." ++ rest ∧
    (rest = "" ∨ rest ∈ Component.names t.components))

/-- A text names a component that the container does not have. -/
def Lacks (t : Scope) (target : String) : Prop :=
  ∃ component ∈ (Reference.ofText target).component, component ∉ Component.names t.components

instance (t : Scope) (target : String) : Decidable (t.Lacks target) :=
  inferInstanceAs (Decidable (∃ component ∈ (Reference.ofText target).component,
    component ∉ Component.names t.components))

/-- A text that begins with the name of a container leads to something, or the container lacks what
it names. -/
theorem reaches_iff {t : Scope} {target : String} :
    t.Reaches target ↔ (Reference.ofText target).container = t.name ∧ ¬t.Lacks target := by
  rcases Reference.ofText_cases target with free | ⟨container, rest, free, rfl⟩
  · have apart (rest : String) : target ≠ t.name ++ "." ++ rest := by
      rintro rfl
      simp at free
    rw [Reference.ofText_of_notMem free, Lacks, Reference.ofText_of_notMem free]
    constructor
    · rintro ⟨-, rfl | ⟨rest, form, -⟩⟩
      · simp
      · exact absurd form (apart rest)
    · rintro ⟨rfl, -⟩
      exact ⟨free, .inl rfl⟩
  · rw [Lacks, Reference.ofText_append free]
    constructor
    · rintro ⟨plain, same | ⟨rest', form, known⟩⟩
      · rw [← same] at plain
        simp at plain
      · have read := Reference.ofText_append plain rest'
        rw [← form, Reference.ofText_append free] at read
        obtain ⟨rfl, -⟩ := Reference.mk.inj read
        obtain rfl : rest = rest' := by simpa using form
        rcases known with rfl | known
        · simp
        · simp [known]
    · rintro ⟨rfl, known⟩
      refine ⟨free, .inr ⟨rest, rfl, ?_⟩⟩
      by_cases none : rest = ""
      · exact .inl none
      · exact .inr (by simpa [none] using known)

end Scope

/-! ## The table of containers -/

namespace ScopeNames

variable {scopes : List Scope} (distinct : (scopes.map Scope.name).Nodup)

include distinct

theorem knows_iff {r : Reference} : (ofScopes scopes).knows r = true ↔
    ∃ t ∈ scopes, t.name = r.container ∧
      ∀ component ∈ r.component, component ∈ Component.names t.components := by
  have found {components : List String} :
      (ofScopes scopes).entries.get? r.container = some components ↔
        ∃ t ∈ scopes, t.name = r.container ∧ Component.names t.components = components :=
    get?_ofScopes distinct
  unfold knows
  cases looked : (ofScopes scopes).entries.get? r.container with
  | none =>
    have absent : ∀ t ∈ scopes, t.name ≠ r.container := fun t ht named => by
      simp [found.2 ⟨t, ht, named, rfl⟩] at looked
    simp only [Bool.false_eq_true, false_iff]
    rintro ⟨t, ht, named, -⟩
    exact absent t ht named
  | some components =>
    obtain ⟨t, ht, named, rfl⟩ := found.1 looked
    have only : ∀ t' ∈ scopes, t'.name = r.container → t' = t := fun t' ht' named' =>
      Scope.eq_of_name distinct ht' ht (named'.trans named.symm)
    cases r.component with
    | none => simpa using ⟨t, ht, named⟩
    | some component =>
      simp only [List.contains_iff_mem, Option.mem_some_iff, forall_eq']
      constructor
      · exact fun known => ⟨t, ht, named, known⟩
      · rintro ⟨t', ht', named', known⟩
        exact only t' ht' named' ▸ known

/-- The texts that lead to a container or to a component of it. -/
theorem resolve?_iff_reaches {target name : String} :
    (∃ r, (ofScopes scopes).resolve? target = some r ∧ r.container = name) ↔
      ∃ t ∈ scopes, t.name = name ∧ t.Reaches target := by
  simp only [resolve?_eq_some_iff, Scope.reaches_iff]
  constructor
  · rintro ⟨r, ⟨rfl, known⟩, rfl⟩
    obtain ⟨t, ht, named, inside⟩ := (knows_iff distinct).1 known
    exact ⟨t, ht, named, named.symm, fun ⟨c, hc, absent⟩ => absent (inside c hc)⟩
  · rintro ⟨t, ht, rfl, named, present⟩
    have inside : ∀ c ∈ (Reference.ofText target).component, c ∈ Component.names t.components :=
      fun c hc => Classical.byContradiction fun absent => present ⟨c, hc, absent⟩
    exact ⟨_, ⟨rfl, (knows_iff distinct).2 ⟨t, ht, named.symm, inside⟩⟩, named⟩

/-- The targets that name a container but nothing in it. -/
theorem misses_iff {s : Scope} {target : String} :
    (ofScopes scopes).misses s target = true ↔ ∃ t ∈ scopes,
      t.name = (Reference.ofText target).container ∧ t.name ≠ s.name ∧ t.Lacks target := by
  have unresolved {t : Scope} (ht : t ∈ scopes)
      (named : t.name = (Reference.ofText target).container) :
      (ofScopes scopes).resolve? target = none ↔ t.Lacks target := by
    rw [← not_iff_not, ← ne_eq, Option.ne_none_iff_exists']
    constructor
    · rintro ⟨r, found⟩
      obtain ⟨t', ht', same, reached⟩ := (resolve?_iff_reaches distinct).1 ⟨r, found, rfl⟩
      obtain ⟨rfl, -⟩ := resolve?_eq_some_iff.1 found
      obtain rfl := Scope.eq_of_name distinct ht' ht (same.trans named.symm)
      exact (Scope.reaches_iff.1 reached).2
    · intro present
      obtain ⟨r, found, -⟩ := (resolve?_iff_reaches distinct).2
        ⟨t, ht, rfl, Scope.reaches_iff.2 ⟨named.symm, present⟩⟩
      exact ⟨r, found⟩
  simp only [misses, Bool.and_eq_true, decide_eq_true_eq, Option.isNone_iff_eq_none,
    holds_ofScopes_iff distinct]
  constructor
  · rintro ⟨⟨away, t, ht, named⟩, none⟩
    exact ⟨t, ht, named, named ▸ away, (unresolved ht named).1 none⟩
  · rintro ⟨t, ht, named, away, lacks⟩
    exact ⟨⟨named ▸ away, t, ht, named⟩, (unresolved ht named).2 lacks⟩

end ScopeNames

end ArchModel
