import ArchModel.Proofs.Extraction.Accepted
import ArchModel.Proofs.Group.Levels
import ArchModel.Proofs.Group.Tree

/-!
# Components that are placed in their groups

A component that is extracted names a group that the rules permit. The tree of groups is built by
the same rules, and has a place for it.

* `GroupRules.check_flat_iff` and `check_path_iff` say which groups the rules permit.
* `GroupPlacement.Settled` holds where some components were placed. It holds of the configured tree
  (`settled_start`), and placing one more component keeps it (`Settled.place`).
* `exists_buildGroups`: a tree of permitted components, which are all in it.
* **`buildGroups_extract`**: the components of a program are each in one group of the tree.
-/

namespace ArchModel

open Text GroupNode

/-! ## What the rules permit -/

namespace GroupRules

variable {rules : GroupRules} {group : String}

theorem check_flat_iff (h : rules.policy = .flat) :
    rules.check group = .ok () ↔ group ∈ rules.groups.names := by
  simp [check, h]

theorem check_path_iff (h : rules.policy = .path) : rules.check group = .ok () ↔
    (∀ name ∈ split '/' group, isGroupName name = true) ∧
      (rules.groups.isEmpty = true ∨ group ∈ rules.groups.paths) := by
  rw [check, h]
  dsimp only
  split
  · next segment found =>
    have listed := List.mem_of_find?_eq_some found
    have bad := List.find?_some found
    simp only [reduceCtorEq, false_iff]
    intro all
    simp [all.1 segment listed] at bad
  · next none =>
    have named : ∀ name ∈ split '/' group, isGroupName name = true := by
      simpa using none
    rw [and_iff_right named]
    cases rules.groups.isEmpty <;> simp

end GroupRules

/-! ## The configured tree -/

/-- The tree of some chains of names has no components, and a group at the end of each chain. -/
theorem foldl_ensure {chains : List (List String)} (hne : ∀ chain ∈ chains, chain ≠ []) :
    let roots := chains.foldl (fun gs chain => ensure chain gs) []
    held roots = [] ∧ PathsFrom [] roots ∧ ∀ chain ∈ chains, ∃ g, at? chain roots = some g := by
  induction chains using List.reverseRecOn with
  | nil => exact ⟨rfl, pathsFrom_nil _, by simp⟩
  | append_singleton chains last ih =>
    rw [List.forall_mem_append] at hne
    obtain ⟨empty, paths, there⟩ := ih hne.1
    have hlast : last ≠ [] := hne.2 last (List.mem_singleton_self _)
    rw [List.foldl_append, List.foldl_cons, List.foldl_nil]
    generalize chains.foldl (fun gs chain => ensure chain gs) [] = roots at *
    refine ⟨?_, paths.updateAt adds_id, fun chain hm => ?_⟩
    · have same : (held (ensure last roots)).Perm (held roots) :=
        perm_held_updateAt adds_id hlast
      rw [empty] at same
      exact List.perm_nil.1 same
    · rcases List.mem_append.1 hm with hm | hm
      · obtain ⟨g, found⟩ := there chain hm
        obtain ⟨g', found', -⟩ := at?_updateAt_of_some adds_id found
        exact ⟨g', found'⟩
      · obtain rfl := List.mem_singleton.1 hm
        exact ⟨_, at?_updateAt adds_id hlast⟩

/-- The tree of the configured groups. -/
def Groups.tree (g : Groups) : List GroupNode :=
  (g.walk.map Prod.fst).foldl (fun gs chain => ensure chain gs) []

theorem Groups.foldl_walk (g : Groups) :
    g.walk.foldl (fun gs x => ensure x.1 gs) [] = g.tree := by
  rw [Groups.tree, List.foldl_map]

theorem Groups.ne_nil_of_mem_map_walk {g : Groups} :
    ∀ chain ∈ g.walk.map Prod.fst, chain ≠ [] := by
  intro chain hm
  obtain ⟨x, hx, rfl⟩ := List.mem_map.1 hm
  exact ne_nil_of_mem_walk hx

/-! ## Placing -/

namespace GroupPlacement

/-- What holds where some components were placed that the rules permit. -/
structure Settled (rules : GroupRules) (placed : List Component) (s : GroupPlacement) : Prop where
  /-- All of them have a place. -/
  unknown : s.unknown = []
  /-- Each of them is in the tree once. -/
  held : (s.ungrouped ++ held s.roots).Perm (Component.names placed)
  /-- By names alone, there is a group of each name that may be given. -/
  named : rules.policy = .flat → rules.groups.names ⊆ names s.roots
  /-- By paths, groups stand at their paths. -/
  paths : rules.policy = .path → PathsFrom [] s.roots
  /-- By paths, a component is in the group at the end of its path. -/
  grouped : rules.policy = .path → ∀ c ∈ placed, ∀ group, c.group = some group → group ≠ "" →
    ∃ g, at? (split '/' group) s.roots = some g ∧ c.name ∈ g.components

variable {rules : GroupRules} {placed : List Component} {s : GroupPlacement} {c : Component}

theorem settled_start (rules : GroupRules) :
    Settled rules [] { roots := rules.groups.tree } := by
  obtain ⟨empty, paths, there⟩ := foldl_ensure rules.groups.ne_nil_of_mem_map_walk
  refine ⟨rfl, ?_, fun _ name hm => ?_, fun _ => paths, fun _ c hc => by cases hc⟩
  · exact .of_eq empty
  · obtain ⟨x, hx, last⟩ := Groups.mem_names_iff.1 hm
    obtain ⟨g, found⟩ := there x.1 (List.mem_map_of_mem hx)
    exact mem_names_of_at? found last

theorem nonempty_eq_some_iff {group : Option String} {name : String} :
    place.nonempty group = some name ↔ group = some name ∧ name ≠ "" := by
  simp [place.nonempty, Option.filter_eq_some_iff]

theorem split_ne_nil (sep : Char) (text : String) : split sep text ≠ [] := by
  simp [split]

theorem names_concat (placed : List Component) (c : Component) :
    Component.names (placed ++ [c]) = Component.names placed ++ [c.name] := by
  simp [Component.names]

section shown

variable {aside inside : List String}

/-- One more component is shown if it stands beside the tree. -/
theorem perm_names_of_aside (h : (aside ++ inside).Perm (Component.names placed)) :
    ((aside ++ [c.name]) ++ inside).Perm (Component.names (placed ++ [c])) := by
  rw [names_concat, List.append_assoc]
  refine (List.perm_append_comm.append_left aside).trans ?_
  rw [← List.append_assoc]
  exact h.append_right _

/-- One more component is shown if the tree has it, wherever it does. -/
theorem perm_names_of_inside {inside' : List String}
    (h : (aside ++ inside).Perm (Component.names placed))
    (more : inside'.Perm ([c.name] ++ inside)) :
    (aside ++ inside').Perm (Component.names (placed ++ [c])) := by
  rw [names_concat]
  refine (more.append_left aside).trans ((List.perm_append_comm_assoc _ _ _).trans ?_)
  exact List.perm_append_comm.trans (h.append_right _)

end shown

namespace Settled

/-- A component without a group stands beside the tree. -/
theorem addUngrouped (h : Settled rules placed s) (none : place.nonempty c.group = none) :
    Settled rules (placed ++ [c]) { s with ungrouped := s.ungrouped ++ [c.name] } := by
  refine ⟨h.unknown, perm_names_of_aside h.held, h.named, h.paths, fun byPath => ?_⟩
  rw [List.forall_mem_append]
  refine ⟨h.grouped byPath, ?_⟩
  simp only [List.mem_singleton, forall_eq]
  intro group named hne
  rw [nonempty_eq_some_iff.2 ⟨named, hne⟩] at none
  cases none

/-- By names alone, a component is placed in the first group of the name. -/
theorem addNamed (h : Settled rules placed s) (policy : rules.policy = .flat) {group : String}
    {roots : List GroupNode}
    (changed : updateFirstIn? group (addComponent c.name) s.roots = some roots) :
    Settled rules (placed ++ [c]) { s with roots } := by
  obtain ⟨perm, same⟩ := perm_held_of_updateFirstIn? (adds_addComponent c.name) changed
  refine ⟨h.unknown, perm_names_of_inside h.held perm, fun _ => ?_, fun e => ?_, fun e => ?_⟩
  · rw [same]
    exact h.named policy
  all_goals simp [policy] at e

/-- By paths, a component is placed in the group at the end of its path. -/
theorem addAt (h : Settled rules placed s) (policy : rules.policy = .path) {group : String}
    (own : c.group = some group) : Settled rules (placed ++ [c])
      { s with roots := updateAt (addComponent c.name) [] (split '/' group) s.roots } := by
  have adds := adds_addComponent c.name
  refine ⟨h.unknown, perm_names_of_inside h.held (perm_held_updateAt adds (split_ne_nil _ _)),
    fun e => ?_, fun _ => (h.paths policy).updateAt adds, fun _ => ?_⟩
  · simp [policy] at e
  rw [List.forall_mem_append]
  constructor
  · intro d hd group' named hne'
    obtain ⟨g, found, inside⟩ := h.grouped policy d hd group' named hne'
    obtain ⟨g', found', -, sub⟩ := at?_updateAt_of_some adds found
    exact ⟨g', found', sub inside⟩
  · simp only [List.mem_singleton, forall_eq]
    intro group' named _
    obtain rfl : group = group' := Option.some.inj (own.symm.trans named)
    refine ⟨_, at?_updateAt adds (split_ne_nil _ _), ?_⟩
    rw [adds.components_eq]
    exact List.mem_append_right _ (List.mem_singleton_self _)

/-- A component that the rules permit is placed, and what was placed stays. -/
theorem place (h : Settled rules placed s) (permits : rules.Permits c) :
    Settled rules (placed ++ [c]) (place rules.groups rules.policy s c) := by
  unfold GroupPlacement.place
  split
  · next none => exact h.addUngrouped none
  · next group given =>
    obtain ⟨own, -⟩ := nonempty_eq_some_iff.1 given
    have checked := permits group own
    cases policy : rules.policy with
    | flat =>
      have known := h.named policy ((GroupRules.check_flat_iff policy).1 checked)
      obtain ⟨roots, changed⟩ : ∃ roots,
          updateFirstIn? group (addComponent c.name) s.roots = some roots := by
        refine Option.ne_none_iff_exists'.1 fun none => ?_
        exact updateFirstIn?_eq_none_iff s.roots |>.1 none known
      simp only [changed]
      exact h.addNamed policy changed
    | path =>
      have listed := ((GroupRules.check_path_iff policy).1 checked).2
      have free : (!rules.groups.isEmpty && !rules.groups.paths.contains group) = false := by
        rcases listed with empty | known
        · simp [empty]
        · simp [known]
      simp only [free, Bool.false_eq_true, if_false]
      exact h.addAt policy own

end Settled

/-- All components that the rules permit are placed. -/
theorem settled_foldl {cs : List Component} (permits : ∀ c ∈ cs, rules.Permits c) :
    Settled rules cs (cs.foldl (GroupPlacement.place rules.groups rules.policy)
      { roots := rules.groups.tree }) := by
  induction cs using List.reverseRecOn with
  | nil => exact settled_start rules
  | append_singleton cs c ih =>
    rw [List.forall_mem_append] at permits
    rw [List.foldl_append]
    exact (ih permits.1).place (permits.2 c (List.mem_singleton_self _))

end GroupPlacement

/-! ## The tree -/

/-- The tree of components that the rules permit. -/
theorem exists_buildGroups {rules : GroupRules} {cs : List Component}
    (permits : ∀ c ∈ cs, rules.Permits c) : ∃ s : GroupPlacement, s.Settled rules cs ∧
      buildGroups cs rules.groups rules.policy =
        .ok (.node noGroup "" s.ungrouped [] :: s.roots) := by
  have settled := GroupPlacement.settled_foldl permits
  refine ⟨_, settled, ?_⟩
  unfold buildGroups
  rw [← rules.groups.foldl_walk] at settled ⊢
  exact if_pos (by rw [settled.unknown]; rfl)

/-- What is in one of several lists without repetitions is in one of them only. -/
theorem exists_only_of_mem_held {gs : List GroupNode} {name : String} (distinct : (held gs).Nodup)
    (h : name ∈ held gs) : ∃ before g after, allIn gs = before ++ g :: after ∧
      name ∈ g.components ∧ ∀ g' ∈ before ++ after, name ∉ g'.components := by
  obtain ⟨g, hg, inside⟩ := List.mem_flatMap.1 h
  obtain ⟨before, after, whole⟩ := List.append_of_mem hg
  refine ⟨before, g, after, whole, inside, fun g' hg' inside' => ?_⟩
  rw [held, whole, List.flatMap_append, List.flatMap_cons] at distinct
  have apart := List.nodup_append.1 distinct
  rcases List.mem_append.1 hg' with earlier | later
  · exact apart.2.2 name (List.mem_flatMap.2 ⟨g', earlier, inside'⟩) name
      (List.mem_append_left _ inside) rfl
  · exact (List.nodup_append.1 apart.2.1).2.2 name inside name
      (List.mem_flatMap.2 ⟨g', later, inside'⟩) rfl

/-- **Extracted components have their places** in the tree of groups that is built by the same
rules: there is a tree, its groups hold the components and nothing else, and each component is in
one group of the tree only. -/
theorem buildGroups_extract (p : Program) (rules : GroupRules) :
    ∃ tree, buildGroups (p.extract rules).components rules.groups rules.policy = .ok tree ∧
      (held tree).Perm (Component.names (p.extract rules).components) ∧
      ∀ c ∈ (p.extract rules).components, ∃ before g after,
        allIn tree = before ++ g :: after ∧ c.name ∈ g.components ∧
          ∀ g' ∈ before ++ after, c.name ∉ g'.components := by
  have permits : ∀ c ∈ (p.extract rules).components, rules.Permits c :=
    fun c hc => Program.permits_of_mem_extract hc
  obtain ⟨s, settled, built⟩ := exists_buildGroups permits
  have all : (held (.node noGroup "" s.ungrouped [] :: s.roots)).Perm
      (Component.names (p.extract rules).components) := by
    rw [held_cons]
    exact settled.held
  refine ⟨_, built, all, fun c hc => ?_⟩
  refine exists_only_of_mem_held (all.nodup_iff.2 (p.nodup_names_extract rules)) ?_
  exact all.mem_iff.2 (List.mem_map_of_mem hc)

end ArchModel
