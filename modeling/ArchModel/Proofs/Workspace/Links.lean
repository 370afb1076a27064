import ArchModel.Proofs.Entries
import ArchModel.Proofs.Text.Cut
import ArchModel.Proofs.Validation.Repetition
import ArchModel.Workspace.Links

/-!
# Issues and links between containers

* `ScopeNames.get?_ofScopes`: the table of containers with distinct names holds what each of them
  is made of.
* `mem_crossScopeIssues_iff`: the relations that are reported.
* `containerLinks_eq`: of the links that containers give rise to, the first of each key is kept.
* `ContainerLink.ends_of_key`: the key of a link tells its ends if the names of containers are
  plain, that is, free of the marks that divide keys.
-/

namespace ArchModel

open Text

/-! ## Names -/

namespace ScopeNames

variable {scopes : List Scope} {t : ScopeNames}

theorem get?_ofScopes (distinct : (scopes.map Scope.name).Nodup) {name : String}
    {components : List String} :
    (ofScopes scopes).entries.get? name = some components ↔
      ∃ s ∈ scopes, s.name = name ∧ Component.names s.components = components := by
  have keys :
      ((scopes.map fun s => (s.name, Component.names s.components)).map Prod.fst).Nodup := by
    simpa [Function.comp_def] using distinct
  rw [ofScopes, ofList, Entries.get?_eq_some_iff, Entries.toList_ofList keys, List.mem_map]
  simp only [Prod.mk.injEq]

theorem holds_ofScopes_iff (distinct : (scopes.map Scope.name).Nodup) {name : String} :
    (ofScopes scopes).holds name = true ↔ ∃ s ∈ scopes, s.name = name := by
  rw [holds, Entries.contains, Option.isSome_iff_exists]
  simp only [get?_ofScopes distinct]
  constructor
  · rintro ⟨_, s, hs, named, -⟩
    exact ⟨s, hs, named⟩
  · rintro ⟨s, hs, named⟩
    exact ⟨_, s, hs, named, rfl⟩

theorem resolve?_eq_some_iff {target : String} {r : Reference} :
    t.resolve? target = some r ↔ r = Reference.ofText target ∧ t.knows r = true := by
  rw [resolve?, Option.filter_eq_some_iff]
  rw [Option.some.injEq, eq_comm]

/-- A reference that leads to something leads into a container. -/
theorem holds_of_knows {r : Reference} (h : t.knows r = true) : t.holds r.container = true := by
  rw [holds, Entries.contains]
  unfold knows at h
  split at h
  · cases h
  · next found _ => rw [found, Option.isSome_some]
  · next found _ => rw [found, Option.isSome_some]

end ScopeNames

/-! ## Issues -/

theorem Scope.mem_outgoing_iff {s : Scope} {r : Relation} :
    r ∈ s.outgoing ↔ r ∈ Component.allRelations s.components ∧
      r.target ∉ Component.names s.components := by
  simp [outgoing]

theorem Scope.eq_of_name {scopes : List Scope} (distinct : (scopes.map Scope.name).Nodup)
    {s s' : Scope} (hs : s ∈ scopes) (hs' : s' ∈ scopes) (h : s.name = s'.name) : s = s' :=
  List.inj_on_of_nodup_map distinct hs hs' h

/-- The relations of a container that are reported. -/
theorem mem_crossScopeIssues_iff {scopes : List Scope} (distinct : (scopes.map Scope.name).Nodup)
    {s : Scope} (hs : s ∈ scopes) {r : Relation} :
    ⟨s.name, r⟩ ∈ crossScopeIssues scopes ↔
      r ∈ s.outgoing ∧ (ScopeNames.ofScopes scopes).misses s r.target = true := by
  rw [crossScopeIssues, List.mem_flatMap]
  constructor
  · rintro ⟨s', hs', found⟩
    obtain ⟨r', hr', issue⟩ := List.mem_map.1 found
    obtain ⟨name, rfl⟩ := CrossScopeIssue.mk.inj issue
    obtain rfl := Scope.eq_of_name distinct hs' hs name
    exact List.mem_filter.1 hr'
  · intro h
    exact ⟨s, hs, List.mem_map.2 ⟨r, List.mem_filter.2 h, rfl⟩⟩

/-! ## Links -/

theorem toList_foldl_insertIfNew {seen : List ContainerLink}
    {kept : Entries String ContainerLink} (h : kept.toList = seen.map fun l => (l.key, l))
    (ls : List ContainerLink) :
    (ls.foldl (fun kept l => kept.insertIfNew l.key l) kept).toList =
      (seen ++ firsts ContainerLink.key seen ls).map fun l => (l.key, l) := by
  have keys : kept.keys = seen.map ContainerLink.key := by
    rw [Entries.keys, h, List.map_map]
    rfl
  induction ls generalizing seen kept with
  | nil => simpa [firsts] using h
  | cons l ls ih =>
    have known : kept.contains l.key = true ↔ l.key ∈ seen.map ContainerLink.key := by
      rw [Entries.contains_iff, keys]
    rw [List.foldl_cons, Entries.insertIfNew]
    by_cases hl : l.key ∈ seen.map ContainerLink.key
    · rw [if_pos (known.2 hl), firsts_cons_of_mem hl]
      exact ih h keys
    · have new : (kept.insert l.key l).toList = (seen ++ [l]).map fun l => (l.key, l) := by
        rw [Entries.toList_insert_of_notMem (keys ▸ hl), h, List.map_append]
        rfl
      have newKeys : (kept.insert l.key l).keys = (seen ++ [l]).map ContainerLink.key := by
        rw [Entries.keys, new, List.map_map]
        rfl
      rw [if_neg (fun e => hl (known.1 e)), firsts_cons_of_notMem hl, ih new newKeys]
      simp

/-- Of the links that containers give rise to, the first of each key is kept. -/
theorem containerLinks_eq (scopes : List Scope) : containerLinks scopes =
    firsts ContainerLink.key [] (scopes.flatMap (Scope.links (.ofScopes scopes))) := by
  have start : (∅ : Entries String ContainerLink).toList = [].map fun l => (l.key, l) := rfl
  rw [containerLinks, Entries.values, toList_foldl_insertIfNew start, List.map_map]
  exact List.map_id _

/-- The link that a target gives rise to. -/
theorem ScopeNames.link?_eq_some_iff {t : ScopeNames} {s : Scope} {target description : String}
    {technology : Option String} {l : ContainerLink} :
    t.link? s target technology description = some l ↔
      ∃ r, t.resolve? target = some r ∧ r.container ≠ s.name ∧
        l = { source := s.name, target := r.container, technology
              description :=
                if description = "" then describeTechnology technology else description } := by
  unfold link?
  cases t.resolve? target with
  | none => simp
  | some r =>
    by_cases inside : r.container = s.name
    · simp [inside]
    · simp [inside, eq_comm]

/-- A target that leads into another container gives rise to a link. -/
theorem ScopeNames.link?_of_resolve {t : ScopeNames} {s : Scope} {target : String} {r : Reference}
    (found : t.resolve? target = some r) (away : r.container ≠ s.name) (technology : Option String)
    (description : String) : ∃ l, t.link? s target technology description = some l ∧
      l.source = s.name ∧ l.target = r.container ∧ l.technology = technology :=
  ⟨_, link?_eq_some_iff.2 ⟨r, found, away, rfl⟩, rfl, rfl, rfl⟩

theorem ScopeNames.link?_eq_some {t : ScopeNames} {s : Scope} {target description : String}
    {technology : Option String} {l : ContainerLink}
    (h : t.link? s target technology description = some l) :
    l.source = s.name ∧ t.holds l.target = true ∧ l.target ≠ s.name := by
  obtain ⟨r, found, away, rfl⟩ := link?_eq_some_iff.1 h
  exact ⟨rfl, holds_of_knows (resolve?_eq_some_iff.1 found).2, away⟩

/-- A link of a container leads from it into another one. -/
theorem Scope.ends_of_mem_links {t : ScopeNames} {s : Scope} {l : ContainerLink}
    (h : l ∈ s.links t) : l.source = s.name ∧ t.holds l.target = true ∧ l.target ≠ s.name := by
  rcases List.mem_append.1 h with configured | declared
  · obtain ⟨r, -, found⟩ := List.mem_filterMap.1 configured
    exact ScopeNames.link?_eq_some found
  · obtain ⟨r, -, found⟩ := List.mem_filterMap.1 declared
    exact ScopeNames.link?_eq_some found

theorem exists_containerLink {scopes : List Scope} {s : Scope} (hs : s ∈ scopes)
    {l : ContainerLink} (h : l ∈ s.links (.ofScopes scopes)) :
    ∃ l' ∈ containerLinks scopes, l'.key = l.key := by
  rw [containerLinks_eq, ← List.nil_append (firsts ..)]
  exact exists_key_firsts (List.mem_flatMap.2 ⟨s, hs, h⟩)

/-- The links lead from one container to another one. -/
theorem ends_of_mem_containerLinks {scopes : List Scope} (distinct : (scopes.map Scope.name).Nodup)
    {l : ContainerLink} (h : l ∈ containerLinks scopes) :
    (∃ s ∈ scopes, s.name = l.source) ∧ (∃ s ∈ scopes, s.name = l.target) ∧
      l.target ≠ l.source := by
  rw [containerLinks_eq] at h
  obtain ⟨s, hs, given⟩ := List.mem_flatMap.1 (mem_of_mem_firsts h)
  obtain ⟨source, holds, away⟩ := Scope.ends_of_mem_links given
  rw [source]
  exact ⟨⟨s, hs, rfl⟩, (ScopeNames.holds_ofScopes_iff distinct).1 holds, away⟩

/-! ## Keys -/

/-- A name without the marks that divide the keys of links. -/
def ContainerLink.Plain (name : String) : Prop :=
  ':' ∉ name.toList ∧ ¬"->".toList <:+: name.toList

instance (name : String) : Decidable (ContainerLink.Plain name) :=
  inferInstanceAs (Decidable (_ ∧ _))

/-- What stands in front of the first arrow of a text. -/
theorem eq_of_append_arrow {a a' b b' : List Char} (ha : ¬['-', '>'] <:+: a)
    (ha' : ¬['-', '>'] <:+: a') (h : a ++ '-' :: '>' :: b = a' ++ '-' :: '>' :: b') :
    a = a' ∧ b = b' := by
  induction a generalizing a' with
  | nil =>
    cases a' with
    | nil => simpa using h
    | cons c a' =>
      -- The second part has an arrow of its own, or begins at the end of one.
      obtain ⟨rfl, rest⟩ := List.cons.inj h
      cases a' with
      | nil => simp at rest
      | cons d a' =>
        obtain ⟨rfl, -⟩ := List.cons.inj rest
        exact absurd ⟨[], a', rfl⟩ ha'
  | cons c a ih =>
    cases a' with
    | nil =>
      obtain ⟨rfl, rest⟩ := List.cons.inj h
      cases a with
      | nil => simp at rest
      | cons d a =>
        obtain ⟨rfl, -⟩ := List.cons.inj rest
        exact absurd ⟨[], a, rfl⟩ ha
    | cons c' a' =>
      obtain ⟨rfl, rest⟩ := List.cons.inj h
      have inner {l : List Char} (hl : ¬['-', '>'] <:+: c :: l) : ¬['-', '>'] <:+: l :=
        fun inside => hl (List.infix_cons_iff.2 (.inr inside))
      obtain ⟨rfl, same⟩ := ih (inner ha) (inner ha') rest
      exact ⟨rfl, same⟩

/-- The key of a link between containers with plain names tells what it links, and by what. -/
theorem ContainerLink.ends_of_key {l l' : ContainerLink} (hs : Plain l.source)
    (hs' : Plain l'.source) (ht : Plain l.target) (ht' : Plain l'.target) (h : l.key = l'.key) :
    l.source = l'.source ∧ l.target = l'.target ∧
      technologyWord l.technology = technologyWord l'.technology := by
  have keys := congrArg String.toList h
  simp only [key, String.toList_append, List.append_assoc] at keys
  obtain ⟨source, rest⟩ := eq_of_append_arrow hs.2 hs'.2 keys
  have cut : cutChars ':' (l'.target.toList ++ ':' :: (technologyWord l'.technology).toList) =
      some (l.target.toList, (technologyWord l.technology).toList) :=
    cutChars_eq_some_iff.2 ⟨rest.symm, ht.1⟩
  rw [cutChars_eq_some_iff.2 ⟨rfl, ht'.1⟩] at cut
  obtain ⟨target, technology⟩ := Prod.mk.inj (Option.some.inj cut)
  exact ⟨String.toList_inj.1 source, String.toList_inj.1 target.symm,
    String.toList_inj.1 technology.symm⟩

/-- A link with the key of a link between two containers with plain names is such a link. -/
theorem Scope.ends_of_plain {scopes : List Scope} (distinct : (scopes.map Scope.name).Nodup)
    (plain : ∀ t ∈ scopes, ContainerLink.Plain t.name) {s t : Scope} (hs : s ∈ scopes)
    (ht : t ∈ scopes) {l : ContainerLink} (hl : l ∈ containerLinks scopes)
    {technology : Option String} (key : l.key =
      s.name ++ "->" ++ t.name ++ ":" ++ ContainerLink.technologyWord technology) :
    l.source = s.name ∧ l.target = t.name ∧
      ContainerLink.technologyWord l.technology = ContainerLink.technologyWord technology := by
  obtain ⟨⟨s', hs', source⟩, ⟨t', ht', target⟩, -⟩ := ends_of_mem_containerLinks distinct hl
  let wanted : ContainerLink := ⟨s.name, t.name, "", technology⟩
  have same : l.key = wanted.key := key
  exact ContainerLink.ends_of_key (source ▸ plain s' hs') (plain s hs)
    (target ▸ plain t' ht') (plain t ht) same

end ArchModel
