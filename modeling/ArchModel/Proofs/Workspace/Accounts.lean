import ArchModel.Proofs.Workspace.Acceptance
import ArchModel.Proofs.Workspace.References

/-!
# What becomes of relations between containers

* `Scope.exists_mem_links_iff`: the links that a container gives rise to are those of its relations
  (`Scope.Relates`) to something in another container.
* **`Scope.reported_and_linked`**: a relation of a component that leads into another container is
  reported once or has its link, and links come from relations.
* **`Scope.links_told`**: the links are, each once, those that relations to the names of containers
  and of their components tell of, where the texts of their keys tell them apart. Taken literally
  this is wrong in three ways (**`Scope.not_linksLiteral`**).
-/

namespace ArchModel

open Text

/-- What a link links, and by what technology. -/
def ContainerLink.triple (l : ContainerLink) : String × String × String :=
  (l.source, l.target, technologyWord l.technology)

/-- Links have distinct triples. -/
theorem nodup_triple_containerLinks (scopes : List Scope) :
    ((containerLinks scopes).map ContainerLink.triple).Nodup := by
  let text (x : String × String × String) : String := x.1 ++ "->" ++ x.2.1 ++ ":" ++ x.2.2
  have keys : ((containerLinks scopes).map ContainerLink.key).Nodup := by
    have none : (([] : List ContainerLink).map ContainerLink.key).Nodup := List.nodup_nil
    rw [containerLinks_eq, ← List.nil_append (firsts ..)]
    exact nodup_firsts none _
  have same : (containerLinks scopes).map ContainerLink.key =
      ((containerLinks scopes).map ContainerLink.triple).map text := by
    rw [List.map_map]
    rfl
  exact List.Nodup.of_map text (same ▸ keys)

namespace Scope

/-! ## Issues -/

/-- A relation of a component is to no component of its own container, but names one that another
container lacks. -/
def Unmet (scopes : List Scope) (s : Scope) (r : Relation) : Prop :=
  r.target ∉ Component.names s.components ∧ ∃ t ∈ scopes,
    t.name = (Reference.ofText r.target).container ∧ t.name ≠ s.name ∧ t.Lacks r.target

instance (scopes : List Scope) (s : Scope) : DecidablePred (Unmet scopes s) := fun _ =>
  inferInstanceAs (Decidable (_ ∧ _))

variable {scopes : List Scope} (distinct : (scopes.map Scope.name).Nodup)

include distinct

/-- Each unmet relation of a container is reported once, in order, and no other one. -/
theorem issues_eq (s : Scope) : s.issues (.ofScopes scopes) =
    ((Component.allRelations s.components).filter fun r => Unmet scopes s r).map (⟨s.name, ·⟩) := by
  rw [issues, outgoing, List.filter_filter]
  congr 2
  funext r
  rw [Bool.eq_iff_iff]
  simp [ScopeNames.misses_iff distinct, Unmet, and_comm]

theorem filter_crossScopeIssues {s : Scope} (hs : s ∈ scopes) :
    (crossScopeIssues scopes).filter (fun i => i.container = s.name) =
      ((Component.allRelations s.components).filter fun r => Unmet scopes s r).map
        (⟨s.name, ·⟩) := by
  have container {s' : Scope} {i : CrossScopeIssue} (hi : i ∈ s'.issues (.ofScopes scopes)) :
      i.container = s'.name := by
    obtain ⟨r, -, rfl⟩ := List.mem_map.1 hi
    rfl
  have own : (s.issues (.ofScopes scopes)).filter (fun i => i.container = s.name) =
      s.issues (.ofScopes scopes) :=
    List.filter_eq_self.2 fun i hi => decide_eq_true (container hi)
  have other (s' : Scope) (away : s'.name ≠ s.name) :
      (s'.issues (.ofScopes scopes)).filter (fun i => i.container = s.name) = [] :=
    List.filter_eq_nil_iff.2 fun i hi => by simpa [container hi] using away
  rw [crossScopeIssues, List.filter_flatMap,
    flatMap_of_nodup_map distinct hs fun s' _ => other s', own, issues_eq distinct]

/-! ## Links -/

omit distinct

/-- A container has a relation to a target by a technology: one of its configuration, or one of a
component to something that is no component of the container. -/
def Relates (s : Scope) (target : String) (technology : Option String) : Prop :=
  (∃ r ∈ s.config.relations, r.target = target ∧ r.technology = technology) ∨
    ∃ r ∈ Component.allRelations s.components, r.target ∉ Component.names s.components ∧
      r.target = target ∧ r.technology = technology

/-- A target leads from a container to something in the container of another name. -/
def Leads (scopes : List Scope) (s : Scope) (target name : String) : Prop :=
  name ≠ s.name ∧ ∃ r, (ScopeNames.ofScopes scopes).resolve? target = some r ∧ r.container = name

/-- The key of a link from a container to one of some name. -/
def keyTo (s : Scope) (name : String) (technology : Option String) : String :=
  s.name ++ "->" ++ name ++ ":" ++ ContainerLink.technologyWord technology

/-- The links that a container gives rise to. -/
theorem exists_mem_links_iff {s : Scope} {name : String} {technology : Option String} :
    (∃ l ∈ s.links (.ofScopes scopes), l.target = name ∧ l.technology = technology) ↔
      ∃ target, s.Relates target technology ∧ Leads scopes s target name := by
  have linked (target description : String) (technology' : Option String) :
      (∃ l, (ScopeNames.ofScopes scopes).link? s target technology' description = some l ∧
        l.target = name ∧ l.technology = technology) ↔
        technology' = technology ∧ Leads scopes s target name := by
    simp only [ScopeNames.link?_eq_some_iff]
    constructor
    · rintro ⟨l, ⟨r, found, away, rfl⟩, rfl, rfl⟩
      exact ⟨rfl, away, r, found, rfl⟩
    · rintro ⟨rfl, away, r, found, rfl⟩
      exact ⟨_, ⟨r, found, away, rfl⟩, rfl, rfl⟩
  constructor
  · rintro ⟨l, hl, ends⟩
    rcases List.mem_append.1 hl with configured | declared
    · obtain ⟨r, hr, given⟩ := List.mem_filterMap.1 configured
      obtain ⟨same, leads⟩ := (linked ..).1 ⟨l, given, ends⟩
      exact ⟨r.target, .inl ⟨r, hr, rfl, same⟩, leads⟩
    · obtain ⟨r, hr, given⟩ := List.mem_filterMap.1 declared
      obtain ⟨same, leads⟩ := (linked ..).1 ⟨l, given, ends⟩
      obtain ⟨hr, foreign⟩ := mem_outgoing_iff.1 hr
      exact ⟨r.target, .inr ⟨r, hr, foreign, rfl, same⟩, leads⟩
  · rintro ⟨target, ⟨r, hr, rfl, same⟩ | ⟨r, hr, foreign, rfl, same⟩, leads⟩
    · obtain ⟨l, given, ends⟩ := (linked r.target r.description r.technology).2 ⟨same, leads⟩
      exact ⟨l, List.mem_append_left _ (List.mem_filterMap.2 ⟨r, hr, given⟩), ends⟩
    · obtain ⟨l, given, ends⟩ := (linked r.target "" r.technology).2 ⟨same, leads⟩
      have outgoing := mem_outgoing_iff.2 ⟨hr, foreign⟩
      exact ⟨l, List.mem_append_right _ (List.mem_filterMap.2 ⟨r, outgoing, given⟩), ends⟩

/-- Links come from relations. -/
theorem relates_of_mem_containerLinks {l : ContainerLink} (h : l ∈ containerLinks scopes) :
    ∃ s ∈ scopes, s.name = l.source ∧
      ∃ target, s.Relates target l.technology ∧ Leads scopes s target l.target := by
  rw [containerLinks_eq] at h
  obtain ⟨s, hs, given⟩ := List.mem_flatMap.1 (mem_of_mem_firsts h)
  exact ⟨s, hs, (ends_of_mem_links given).1.symm, exists_mem_links_iff.1 ⟨l, given, rfl, rfl⟩⟩

/-- A relation into another container has a link of its key. -/
theorem exists_link_of_relates {s : Scope} (hs : s ∈ scopes) {target name : String}
    {technology : Option String} (related : s.Relates target technology)
    (leads : Leads scopes s target name) :
    ∃ l ∈ containerLinks scopes, l.key = s.keyTo name technology := by
  obtain ⟨l, given, rfl, rfl⟩ := exists_mem_links_iff.2 ⟨target, related, leads⟩
  obtain ⟨l', hl', same⟩ := exists_containerLink hs given
  refine ⟨l', hl', same.trans ?_⟩
  rw [ContainerLink.key, (ends_of_mem_links given).1, keyTo]

/-! ## An office -/

/-- A container with relations of its own, and with a component that has relations to some
targets. -/
def front (relations : List ContainerRelation) (targets : List String) : Scope :=
  { config := { name := "orders", relations }
    components := [shopComponent "Checkout" (targets.map checkoutRelation)] }

/-- A container with one component. -/
def back (name : String) : Scope :=
  { config := { name }, components := [shopComponent "Invoices" []] }

/-- A workspace of the two. -/
def office (name : String) (relations : List ContainerRelation) (targets : List String) :
    List Scope :=
  [front relations targets, back name]

/-- A workspace with relations of each kind, one of which leads nowhere. -/
def busyOffice : List Scope :=
  office "billing" [{ target := "billing.", technology := some "" }]
    ["billing.Refunds", "billing.Invoices", "metrics"]

theorem busyOffice_distinct : (busyOffice.map Scope.name).Nodup := by decide

theorem busyOffice_plain : ∀ s ∈ busyOffice, ContainerLink.Plain s.name := by decide +kernel

/-! ## Issues and links -/

/-- **What becomes of relations.** In a workspace of containers with distinct and plain names,

* the issues of a container are, one for each and in order, the relations of its components that
  name a component which another container lacks;
* a relation of a component that leads into another container has a link to it by its technology;
* a link leads to another container, and comes from a relation of its source that leads there;
* no two links have the same source, target and technology. -/
theorem reported_and_linked (distinct : (scopes.map Scope.name).Nodup)
    (plain : ∀ s ∈ scopes, ContainerLink.Plain s.name) :
    (∀ s ∈ scopes, (crossScopeIssues scopes).filter (fun i => i.container = s.name) =
      ((Component.allRelations s.components).filter fun r => Unmet scopes s r).map
        (⟨s.name, ·⟩)) ∧
    (∀ s ∈ scopes, ∀ r ∈ Component.allRelations s.components,
      r.target ∉ Component.names s.components → ∀ t ∈ scopes,
      t.name = (Reference.ofText r.target).container → t.name ≠ s.name →
      ((ScopeNames.ofScopes scopes).resolve? r.target).isSome →
      ∃ l ∈ containerLinks scopes, l.source = s.name ∧ l.target = t.name ∧
        ContainerLink.technologyWord l.technology = ContainerLink.technologyWord r.technology) ∧
    (∀ l ∈ containerLinks scopes, l.source ≠ l.target ∧ ∃ s ∈ scopes, s.name = l.source ∧
      ∃ target, s.Relates target l.technology ∧ Leads scopes s target l.target) ∧
    ((containerLinks scopes).map ContainerLink.triple).Nodup := by
  refine ⟨fun s hs => filter_crossScopeIssues distinct hs, ?_, ?_, nodup_triple_containerLinks _⟩
  · intro s hs r hr foreign t ht named away resolved
    obtain ⟨reference, found⟩ := Option.isSome_iff_exists.1 resolved
    obtain ⟨rfl, -⟩ := ScopeNames.resolve?_eq_some_iff.1 found
    obtain ⟨l, hl, key⟩ := exists_link_of_relates hs (.inr ⟨r, hr, foreign, rfl, rfl⟩)
      ⟨away, _, found, named.symm⟩
    exact ⟨l, hl, ends_of_plain distinct plain hs ht hl key⟩
  · intro l hl
    obtain ⟨s, hs, source, target, related, leads⟩ := relates_of_mem_containerLinks hl
    exact ⟨fun e => leads.1 (e ▸ source.symm), s, hs, source, target, related, leads⟩

theorem reported_and_linked_office :
    (crossScopeIssues busyOffice).filter (fun i => i.container = "orders") =
      [⟨"orders", checkoutRelation "billing.Refunds"⟩] ∧
    ∃ l ∈ containerLinks busyOffice, l.source = "orders" ∧ l.target = "billing" ∧
      ContainerLink.technologyWord l.technology = "unknown" := by
  obtain ⟨issues, linked, -⟩ := reported_and_linked busyOffice_distinct busyOffice_plain
  refine ⟨(issues busyOffice[0] List.mem_cons_self).trans (by decide), ?_⟩
  exact linked busyOffice[0] List.mem_cons_self (checkoutRelation "billing.Invoices") (by decide)
    (by decide) (back "billing") (List.mem_cons_of_mem _ List.mem_cons_self) rfl (by decide)
    (by decide)

/-! ## Links by name -/

/-- A container has a relation by a technology whose target reaches another container. -/
def Joins (s t : Scope) (technology : Option String) : Prop :=
  s.name ≠ t.name ∧ ∃ target, s.Relates target technology ∧ t.Reaches target

/-- **The links that relations tell of.** In a workspace of containers with distinct names,

* a link tells of a relation by its technology whose target reaches the other container;
* there is one link, up to the words for an unknown technology, for what a relation tells, unless
  another relation tells of something else that has the same text;
* no two links have the same source, target and technology. -/
theorem links_told (distinct : (scopes.map Scope.name).Nodup) :
    (∀ l ∈ containerLinks scopes, ∃ s ∈ scopes, ∃ t ∈ scopes,
      s.name = l.source ∧ t.name = l.target ∧ s.Joins t l.technology) ∧
    (∀ s ∈ scopes, ∀ t ∈ scopes, ∀ technology, s.Joins t technology →
      (∀ s' ∈ scopes, ∀ t' ∈ scopes, ∀ technology', s'.Joins t' technology' →
        s'.keyTo t'.name technology' = s.keyTo t.name technology →
        s'.name = s.name ∧ t'.name = t.name ∧ ContainerLink.technologyWord technology' =
          ContainerLink.technologyWord technology) →
      ∃! l, l ∈ containerLinks scopes ∧
        l.triple = (s.name, t.name, ContainerLink.technologyWord technology)) ∧
    ((containerLinks scopes).map ContainerLink.triple).Nodup := by
  have tells : ∀ l ∈ containerLinks scopes, ∃ s ∈ scopes, ∃ t ∈ scopes,
      s.name = l.source ∧ t.name = l.target ∧ s.Joins t l.technology := by
    intro l hl
    obtain ⟨s, hs, source, target, related, away, led⟩ := relates_of_mem_containerLinks hl
    obtain ⟨t, ht, named, reached⟩ := (ScopeNames.resolve?_iff_reaches distinct).1 led
    exact ⟨s, hs, t, ht, source, named, fun e => away (named ▸ e.symm), target, related, reached⟩
  have single := nodup_triple_containerLinks scopes
  refine ⟨tells, ?_, single⟩
  rintro s hs t ht technology ⟨away, target, related, reached⟩ apart
  have led := (ScopeNames.resolve?_iff_reaches distinct).2 ⟨t, ht, rfl, reached⟩
  obtain ⟨l, hl, key⟩ := exists_link_of_relates hs related ⟨away.symm, led⟩
  obtain ⟨s', hs', t', ht', source, named, joins⟩ := tells l hl
  have text : s'.keyTo t'.name l.technology = l.key := by rw [keyTo, source, named]; rfl
  obtain ⟨source', named', word⟩ := apart s' hs' t' ht' _ joins (text.trans key)
  have triple : l.triple = (s.name, t.name, ContainerLink.technologyWord technology) := by
    rw [ContainerLink.triple, ← source, ← named, source', named', word]
  exact ⟨l, ⟨hl, triple⟩, fun l' ⟨hl', triple'⟩ =>
    List.inj_on_of_nodup_map single hl' hl (triple'.trans triple.symm)⟩

/-- With plain names no two relations tell of different things that have the same text. -/
theorem told_apart_of_plain (plain : ∀ s ∈ scopes, ContainerLink.Plain s.name) {s t s' t' : Scope}
    (hs : s ∈ scopes) (ht : t ∈ scopes) (hs' : s' ∈ scopes) (ht' : t' ∈ scopes)
    {technology technology' : Option String}
    (same : s'.keyTo t'.name technology' = s.keyTo t.name technology) :
    s'.name = s.name ∧ t'.name = t.name ∧ ContainerLink.technologyWord technology' =
      ContainerLink.technologyWord technology := by
  let one : ContainerLink := ⟨s'.name, t'.name, "", technology'⟩
  let other : ContainerLink := ⟨s.name, t.name, "", technology⟩
  have keys : one.key = other.key := same
  exact ContainerLink.ends_of_key (plain s' hs') (plain s hs) (plain t' ht') (plain t ht) keys

theorem links_told_office : ∃! l, l ∈ containerLinks busyOffice ∧
    l.triple = ("orders", "billing", "unknown") := by
  have first : busyOffice[0] ∈ busyOffice := List.mem_cons_self
  have second : back "billing" ∈ busyOffice := List.mem_cons_of_mem _ List.mem_cons_self
  have joins : busyOffice[0].Joins (back "billing") none := by
    refine ⟨by decide, "billing.Invoices", .inr ?_, by decide, .inr ⟨"Invoices", rfl, .inr ?_⟩⟩
    · exact ⟨checkoutRelation "billing.Invoices", by decide, by decide, rfl, rfl⟩
    · decide
  exact (links_told busyOffice_distinct).2.1 _ first _ second none joins
    fun s' hs' t' ht' technology' _ same =>
      told_apart_of_plain busyOffice_plain first second hs' ht' same

/-- The links are, each once, what the relations to names of containers and of their components
tell, word by word. -/
def LinksLiteral (scopes : List Scope) : Prop :=
  (scopes.map Scope.name).Nodup → (∀ s ∈ scopes, s.name ≠ "") →
    ((containerLinks scopes).map fun l => (l.source, l.target, l.technology)).Nodup ∧
    ∀ source target technology, (source, target, technology) ∈
        (containerLinks scopes).map (fun l => (l.source, l.target, l.technology)) ↔
      ∃ s ∈ scopes, ∃ t ∈ scopes, s.name = source ∧ t.name = target ∧ s.name ≠ t.name ∧
        ∃ text, s.Relates text technology ∧
          (text = t.name ∨ ∃ c ∈ Component.names t.components, text = t.name ++ "." ++ c)

/-- Word by word this is wrong: a relation without a technology shares the link of one by the
technology `unknown`, a dot may follow a name, and a name with a dot in it is not found. -/
theorem not_linksLiteral :
    ¬LinksLiteral (office "billing" [{ target := "billing" },
      { target := "billing", technology := some "unknown" }] []) ∧
    ¬LinksLiteral (office "billing" [{ target := "billing." }] []) ∧
    ¬LinksLiteral (office "billing.eu" [{ target := "billing.eu" }] []) := by
  refine ⟨fun claim => ?_, fun claim => ?_, fun claim => ?_⟩
  · let relations : List ContainerRelation :=
      [{ target := "billing" }, { target := "billing", technology := some "unknown" }]
    have links : (containerLinks (office "billing" relations [])).map
        (fun l => (l.source, l.target, l.technology)) = [("orders", "billing", none)] := by decide
    have told := ((claim (by decide) (by decide)).2 "orders" "billing" (some "unknown")).2
      ⟨front relations [], by simp [office, relations], back "billing", by simp [office], rfl, rfl,
        by decide, "billing", .inl ⟨relations[1], by decide, rfl, rfl⟩, .inl rfl⟩
    simp [links, relations] at told
  · let relations : List ContainerRelation := [{ target := "billing." }]
    have links : ("orders", "billing", none) ∈ (containerLinks
        (office "billing" relations [])).map fun l => (l.source, l.target, l.technology) := by
      decide
    obtain ⟨s, hs, t, ht, source, target, -, text, related, form⟩ :=
      ((claim (by decide) (by decide)).2 "orders" "billing" none).1 links
    -- The one relation is that of `orders`, and its target has neither form.
    have only : text = "billing." := by
      simp only [office, List.mem_cons, List.not_mem_nil, or_false] at hs
      rcases hs with rfl | rfl
      · rcases related with ⟨r, hr, rfl, -⟩ | ⟨r, hr, -⟩
        · rw [List.mem_singleton.1 hr]
        · simp [front, shopComponent, Component.allRelations] at hr
      · exact absurd source (by decide)
    have names : Component.names t.components = ["Invoices"] := by
      simp only [office, List.mem_cons, List.not_mem_nil, or_false] at ht
      rcases ht with rfl | rfl
      · exact absurd target (by decide)
      · rfl
    rw [only, target, names] at form
    exact absurd form (by decide)
  · let relations : List ContainerRelation := [{ target := "billing.eu" }]
    have links : containerLinks (office "billing.eu" relations []) = [] := by decide
    have told := ((claim (by decide) (by decide)).2 "orders" "billing.eu" none).2
      ⟨front relations [], by simp [office, relations], back "billing.eu", by simp [office], rfl,
        rfl, by decide, "billing.eu", .inl ⟨relations[0], by decide, rfl, rfl⟩, .inl rfl⟩
    simp [links, relations] at told

end Scope

end ArchModel
