import ArchModel.Proofs.Validation.Verdict
import ArchModel.Proofs.Workspace.Links

/-!
# Relations that are accepted unseen

A relation into another container is accepted by its own container without a look at the sources,
since it is looked up by name among all containers.

* `ReconcileContext.trusts_ofConfig`: what a container trusts are the targets of its configuration
  and what another container holds.
* `ReconcileContext.accepted_iff`: these are the relations that are accepted without usage.
* **`Scope.accepted_checked`**: such a relation is reported or linked, unless its target is the name
  of a component of its own container. Then nobody looks at it
  (**`Scope.not_forall_accepted_checked`**).
-/

namespace ArchModel

open Text

namespace ReconcileContext

variable {x : ReconcileContext} {names : List String} {usage : UsageIndex} {r : Relation}

/-- A relation is accepted without usage if its target is trusted. -/
theorem accepted_iff :
    (x.check names usage r).isUsed = true ∧ (x.check names usage r).classification = none ↔
      r.source ∈ names ∧ x.Trusts r.target := by
  by_cases source : r.source ∈ names
  · have outcome : Outcome x names usage r (x.check names usage r) := check_outcome source
    generalize x.check names usage r = result at outcome
    cases outcome with
    | trusted trust => simp [source, trust]
    | missing noTrust _ => simp [noTrust]
    | settled noTrust _ _ => simp [settle, noTrust]
    | unused noTrust _ _ => simp [noTrust]
  · have unused : (x.check names usage r).isUsed = false := by
      rw [check, if_pos (by simpa using source)]
    simp [source, unused]

/-- A container trusts the targets that its configuration names, and what other containers hold. -/
theorem trusts_ofConfig (c : ContainerConfig) (containers : List String) (target : String) :
    (ofConfig c containers).Trusts target ↔ (ofConfig c []).Trusts target ∨
      (Reference.ofText target).container ∈ containers ∧
        (Reference.ofText target).container ≠ c.name := by
  have holder : (Reference.ofText target).container = (cut '.' target).1 := rfl
  rw [← trusts_iff, ← trusts_iff, holder]
  simp only [trusts, declares, ofConfig, List.filter_nil, List.contains_nil, Bool.or_false,
    Bool.or_eq_true, List.contains_iff_mem, List.mem_filter, decide_eq_true_eq]
  exact or_right_comm

end ReconcileContext

namespace Scope

open ReconcileContext

variable {scopes : List Scope} {s : Scope} {r : Relation}

/-- A relation of a container into another one is reported or linked by name. -/
theorem issue_or_link (distinct : (scopes.map Scope.name).Nodup) (hs : s ∈ scopes)
    (outgoing : r ∈ s.outgoing) {holder : Scope} (listed : holder ∈ scopes)
    (named : holder.name = (Reference.ofText r.target).container) (away : holder.name ≠ s.name) :
    ⟨s.name, r⟩ ∈ crossScopeIssues scopes ∨ ∃ l ∈ containerLinks scopes,
      l.key = s.name ++ "->" ++ holder.name ++ ":" ++ ContainerLink.technologyWord r.technology := by
  cases found : (ScopeNames.ofScopes scopes).resolve? r.target with
  | none =>
    left
    have holds : (ScopeNames.ofScopes scopes).holds holder.name = true :=
      (ScopeNames.holds_ofScopes_iff distinct).2 ⟨holder, listed, rfl⟩
    refine (mem_crossScopeIssues_iff distinct hs).2 ⟨outgoing, ?_⟩
    simp [ScopeNames.misses, ← named, away, holds, found]
  | some reference =>
    right
    obtain ⟨rfl, -⟩ := ScopeNames.resolve?_eq_some_iff.1 found
    obtain ⟨l, link, source, target, technology⟩ :=
      ScopeNames.link?_of_resolve found (named ▸ away) r.technology ""
    have given : l ∈ s.links (.ofScopes scopes) :=
      List.mem_append_right _ (List.mem_filterMap.2 ⟨r, outgoing, link⟩)
    obtain ⟨l', hl', key⟩ := exists_containerLink hs given
    refine ⟨l', hl', ?_⟩
    rw [key, ContainerLink.key, source, target, technology, named]

/-- What becomes of a relation that its container accepts without usage, though the configuration
does not name its target. The target leads into another container. If it is not the name of a
component of its own container, it is reported that the other container lacks it, or a link has the
key of the link that it gives rise to, which is a link between the two containers if all containers
have plain names. If it is such a name, nothing is reported. -/
theorem accepted_checked (distinct : (scopes.map Scope.name).Nodup) (hs : s ∈ scopes)
    (hr : r ∈ Component.allRelations s.components) (usage : UsageIndex)
    (own : ¬(ofConfig s.config []).Trusts r.target) :
    let names := Component.names s.components
    let result := (ofConfig s.config (scopes.map Scope.name)).check names usage r
    let holder := (Reference.ofText r.target).container
    (result.isUsed = true ∧ result.classification = none ↔
      r.source ∈ names ∧ holder ≠ s.name ∧ ∃ t ∈ scopes, t.name = holder) ∧
    (result.isUsed = true ∧ result.classification = none →
      (r.target ∈ names → ⟨s.name, r⟩ ∉ crossScopeIssues scopes) ∧
      (r.target ∉ names → ⟨s.name, r⟩ ∈ crossScopeIssues scopes ∨ ∃ l ∈ containerLinks scopes,
        l.key = s.name ++ "->" ++ holder ++ ":" ++ ContainerLink.technologyWord r.technology ∧
        ((∀ t ∈ scopes, ContainerLink.Plain t.name) → l.source = s.name ∧ l.target = holder))) := by
  intro names result holder
  have accepted : result.isUsed = true ∧ result.classification = none ↔
      r.source ∈ names ∧ holder ≠ s.name ∧ ∃ t ∈ scopes, t.name = holder := by
    rw [accepted_iff, trusts_ofConfig, or_iff_right own, List.mem_map]
    exact and_congr_right fun _ => and_comm
  refine ⟨accepted, fun unseen => ⟨fun inside issue => ?_, fun outside => ?_⟩⟩
  · have outgoing := ((mem_crossScopeIssues_iff distinct hs).1 issue).1
    exact (mem_outgoing_iff.1 outgoing).2 inside
  · obtain ⟨-, away, t, ht, named⟩ := accepted.1 unseen
    rw [← named] at away ⊢
    rcases issue_or_link distinct hs (mem_outgoing_iff.2 ⟨hr, outside⟩) ht named away with
      issue | ⟨l, hl, key⟩
    · exact .inl issue
    · refine .inr ⟨l, hl, key, fun plain => ?_⟩
      obtain ⟨source, target, -⟩ := ends_of_plain distinct plain hs ht hl key
      exact ⟨source, target⟩

/-! ## A shop -/

/-- A relation of `Checkout` to some target. -/
def checkoutRelation (target : String) : Relation :=
  { source := "Checkout", target, description := "Uses"
    location := { file := "app.py", declaration := "Checkout", line := 1 } }

/-- A component that stands in one file with `Checkout`. -/
def shopComponent (name : String) (relations : List Relation) : Component :=
  { name, relations, description := ""
    location := { file := "app.py", declaration := name, line := 1 } }

/-- A container with a component that has the name of the other container of its workspace. -/
def orders (target : String) : Scope :=
  { config := { name := "orders" }
    components := [shopComponent "Checkout" [checkoutRelation target], shopComponent "billing" []] }

/-- Two containers, with a relation of the first one to some target. -/
def shop (target : String) : List Scope :=
  [orders target, { config := { name := "billing" }, components := [shopComponent "Invoices" []] }]

/-- The configuration of `orders` names no targets. -/
theorem not_trusts_orders (target : String) :
    ¬(ofConfig (orders target).config []).Trusts target := by
  have external : (ofConfig (orders target).config []).external = [] := rfl
  have targets : (ofConfig (orders target).config []).targets = [] := rfl
  have scopes : (ofConfig (orders target).config []).scopes = [] := rfl
  simp [Trusts, external, targets, scopes]

/-- A relation to a component of the other container gives rise to a link. -/
theorem accepted_checked_invoices :
    ∃ l ∈ containerLinks (shop "billing.Invoices"), l.source = "orders" ∧ l.target = "billing" := by
  have distinct : ((shop "billing.Invoices").map Scope.name).Nodup := by decide
  have plain : ∀ t ∈ shop "billing.Invoices", ContainerLink.Plain t.name := by decide +kernel
  have silent : crossScopeIssues (shop "billing.Invoices") = [] := by decide
  have listed : orders "billing.Invoices" ∈ shop "billing.Invoices" := List.mem_cons_self
  have declared : checkoutRelation "billing.Invoices" ∈
      Component.allRelations (orders "billing.Invoices").components := by decide
  obtain ⟨accepted, checked⟩ :=
    accepted_checked distinct listed declared {} (not_trusts_orders "billing.Invoices")
  have outside : "billing.Invoices" ∉ Component.names (orders "billing.Invoices").components := by
    decide
  have known : "Checkout" ∈ Component.names (orders "billing.Invoices").components := by decide
  have holder : ∃ t ∈ shop "billing.Invoices",
      t.name = (Reference.ofText "billing.Invoices").container := by decide
  have away : (Reference.ofText "billing.Invoices").container ≠ "orders" := by decide
  rcases (checked (accepted.2 ⟨known, away, holder⟩)).2 outside with issue | ⟨l, hl, -, ends⟩
  · simp [silent] at issue
  · exact ⟨l, hl, ends plain⟩

/-- It is wrong that each such relation is reported or linked: a component may have the name of
another container. -/
theorem not_forall_accepted_checked :
    ¬∀ (scopes : List Scope) (s : Scope) (r : Relation) (usage : UsageIndex),
      (scopes.map Scope.name).Nodup → s ∈ scopes → r ∈ Component.allRelations s.components →
      ¬(ofConfig s.config []).Trusts r.target →
      let result := (ofConfig s.config (scopes.map Scope.name)).check
        (Component.names s.components) usage r
      result.isUsed = true ∧ result.classification = none →
      ⟨s.name, r⟩ ∈ crossScopeIssues scopes ∨ ∃ l ∈ containerLinks scopes,
        l.source = s.name ∧ l.target = (Reference.ofText r.target).container := by
  intro claim
  have silent : crossScopeIssues (shop "billing") = [] := by decide
  have unlinked : containerLinks (shop "billing") = [] := by rfl
  have known : "Checkout" ∈ Component.names (orders "billing").components := by decide
  have away : (Reference.ofText "billing").container ∈ (shop "billing").map Scope.name ∧
      (Reference.ofText "billing").container ≠ "orders" := by decide
  have trust := (trusts_ofConfig (orders "billing").config _ "billing").2 (.inr away)
  rcases claim (shop "billing") (orders "billing") (checkoutRelation "billing") {} (by decide)
    List.mem_cons_self (by decide) (not_trusts_orders _) (accepted_iff.2 ⟨known, trust⟩) with
    issue | ⟨l, hl, -⟩
  · simp [silent] at issue
  · simp [unlinked] at hl

end Scope

end ArchModel
