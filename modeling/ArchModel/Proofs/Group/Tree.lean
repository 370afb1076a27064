import ArchModel.Group.Tree
import Mathlib.Data.List.Perm.Basic

/-!
# Groups of a tree

How adding components changes a tree of groups.

* `GroupNode.allIn` lists the groups of a tree, each before those below it, and `GroupNode.held` the
  components in them. `GroupNode.at?` is the group at the end of a chain of names.
* `perm_held_updateAt`: a change at the end of a chain adds components once. `at?_updateAt` says
  which group has them, `at?_updateAt_of_some` that the others stay.
* `PathsFrom`: groups have the chains that lead to them as their paths. A change at the end of a
  chain keeps it (`PathsFrom.updateAt`).
* `perm_held_of_updateFirstIn?`: a change of the first group of a name adds components once, too.
  The group is there if any group has the name (`updateFirstIn?_eq_none_iff`).
-/

namespace ArchModel.GroupNode

open Text

/-! ## The groups of a tree -/

mutual

/-- A group and the groups below it, each before those below it. -/
def all : GroupNode → List GroupNode
  | node n p cs gs => node n p cs gs :: allIn gs

/-- The groups of a tree, each before those below it. -/
def allIn : List GroupNode → List GroupNode
  | [] => []
  | g :: gs => all g ++ allIn gs

end

/-- The names of the components in the groups of a tree. -/
def held (gs : List GroupNode) : List String := (allIn gs).flatMap components

/-- The names of the groups of a tree. -/
def names (gs : List GroupNode) : List String := (allIn gs).map name

/-- The group at the end of a chain of names. -/
def at? : List String → List GroupNode → Option GroupNode
  | [], _ => none
  | name :: rest, gs => (gs.find? (·.name == name)).bind fun g =>
      if rest.isEmpty then some g else at? rest g.subgroups

theorem all_eq (g : GroupNode) : g.all = g :: allIn g.subgroups := by
  cases g
  rfl

theorem allIn_append (gs hs : List GroupNode) : allIn (gs ++ hs) = allIn gs ++ allIn hs := by
  induction gs with
  | nil => rfl
  | cons g gs ih => rw [List.cons_append, allIn, allIn, ih, List.append_assoc]

@[simp] theorem held_nil : held [] = [] := rfl

theorem held_cons (g : GroupNode) (gs : List GroupNode) :
    held (g :: gs) = g.components ++ (held g.subgroups ++ held gs) := by
  simp [held, allIn, all_eq]

theorem held_append (gs hs : List GroupNode) : held (gs ++ hs) = held gs ++ held hs := by
  simp [held, allIn_append]

theorem held_split (g : GroupNode) (gs : List GroupNode) :
    held (g :: gs) = held [g] ++ held gs := held_append [g] gs

theorem names_cons (g : GroupNode) (gs : List GroupNode) :
    names (g :: gs) = g.name :: (names g.subgroups ++ names gs) := by
  simp [names, allIn, all_eq]

theorem names_split (g : GroupNode) (gs : List GroupNode) :
    names (g :: gs) = names [g] ++ names gs := by
  simp [names, allIn]

theorem mem_allIn_of_find? {name : String} {gs : List GroupNode} {g : GroupNode}
    (h : gs.find? (·.name == name) = some g) : g.name = name ∧ g ∈ gs ∧
      ∀ g' ∈ g :: allIn g.subgroups, g' ∈ allIn gs := by
  have listed : g ∈ gs := List.mem_of_find?_eq_some h
  refine ⟨by simpa using List.find?_some h, listed, fun g' hg' => ?_⟩
  obtain ⟨before, after, rfl⟩ := List.append_of_mem listed
  rw [allIn_append, allIn, all_eq]
  exact List.mem_append_right _ (List.mem_append_left _ hg')

/-- The group at the end of a chain is a group of the tree and has the last name of the chain. -/
theorem mem_allIn_of_at? {chain : List String} {gs : List GroupNode} {g : GroupNode}
    (h : at? chain gs = some g) : g ∈ allIn gs ∧ chain.getLast? = some g.name := by
  induction chain generalizing gs with
  | nil => cases h
  | cons name rest ih =>
    obtain ⟨first, found, below⟩ := Option.bind_eq_some_iff.1 h
    obtain ⟨rfl, -, sub⟩ := mem_allIn_of_find? found
    cases rest with
    | nil =>
      obtain rfl := Option.some.inj below
      exact ⟨sub _ List.mem_cons_self, rfl⟩
    | cons next rest =>
      obtain ⟨hm, last⟩ := ih below
      exact ⟨sub _ (List.mem_cons_of_mem _ hm), by rwa [List.getLast?_cons_cons]⟩

theorem mem_names_of_at? {chain : List String} {gs : List GroupNode} {g : GroupNode} {name : String}
    (h : at? chain gs = some g) (last : chain.getLast? = some name) : name ∈ names gs := by
  obtain ⟨hm, last'⟩ := mem_allIn_of_at? h
  obtain rfl := Option.some.inj (last.symm.trans last')
  exact List.mem_map_of_mem hm

/-! ## Changes that add components -/

/-- The change of a group adds components and leaves the rest of the group. -/
def Adds (f : GroupNode → GroupNode) (added : List String) : Prop :=
  ∀ n p cs gs, f (node n p cs gs) = node n p (cs ++ added) gs

theorem adds_id : Adds id [] := fun n p cs gs => by rw [List.append_nil, id]

theorem adds_addComponent (component : String) : Adds (addComponent component) [component] :=
  fun _ _ _ _ => rfl

namespace Adds

variable {f : GroupNode → GroupNode} {added : List String} (hf : Adds f added) (g : GroupNode)

include hf

theorem name_eq : (f g).name = g.name := by
  obtain ⟨n, p, cs, gs⟩ := g
  rw [hf]
  rfl

theorem path_eq : (f g).path = g.path := by
  obtain ⟨n, p, cs, gs⟩ := g
  rw [hf]
  rfl

theorem components_eq : (f g).components = g.components ++ added := by
  obtain ⟨n, p, cs, gs⟩ := g
  rw [hf]
  rfl

theorem subgroups_eq : (f g).subgroups = g.subgroups := by
  obtain ⟨n, p, cs, gs⟩ := g
  rw [hf]
  rfl

end Adds

@[simp] theorem name_withSubgroups (gs : List GroupNode) (g : GroupNode) :
    (g.withSubgroups gs).name = g.name := by
  cases g
  rfl

@[simp] theorem path_withSubgroups (gs : List GroupNode) (g : GroupNode) :
    (g.withSubgroups gs).path = g.path := by
  cases g
  rfl

@[simp] theorem components_withSubgroups (gs : List GroupNode) (g : GroupNode) :
    (g.withSubgroups gs).components = g.components := by
  cases g
  rfl

@[simp] theorem subgroups_withSubgroups (gs : List GroupNode) (g : GroupNode) :
    (g.withSubgroups gs).subgroups = gs := by
  cases g
  rfl

/-! ## Changing the group of a name -/

section named

variable {name path : String} {f : GroupNode → GroupNode} {added : List String}

theorem perm_held_updateNamed (hf : ∀ g, (held [f g]).Perm (added ++ held [g]))
    (gs : List GroupNode) : (held (updateNamed name path f gs)).Perm (added ++ held gs) := by
  induction gs with
  | nil => exact hf _
  | cons g gs ih =>
    rw [updateNamed, held_split g gs]
    split
    · rw [held_split (f g), ← List.append_assoc]
      exact (hf g).append_right _
    · rw [held_split g]
      exact (ih.append_left _).trans (List.perm_append_comm_assoc _ _ _)

theorem find?_updateNamed (hf : ∀ g, (f g).name = g.name) (gs : List GroupNode) (n : String) :
    (updateNamed name path f gs).find? (·.name == n) =
      if n = name then some (f ((gs.find? (·.name == name)).getD (node name path [] [])))
      else gs.find? (·.name == n) := by
  induction gs with
  | nil =>
    have fresh : (f (node name path [] [])).name = name := hf _
    rw [updateNamed, List.find?_cons, fresh]
    by_cases hn : n = name
    · simp [hn]
    · rw [beq_false_of_ne (fun e => hn e.symm : name ≠ n), if_neg hn]
  | cons g gs ih =>
    rw [updateNamed]
    split
    · next named =>
      subst named
      by_cases hn : n = g.name
      · simp [hn, hf]
      · have other : ¬g.name = n := fun e => hn e.symm
        simp [hn, hf, other]
    · next other =>
      by_cases hg : g.name = n
      · have hn : n ≠ name := fun e => other (hg.trans e)
        simp [hg, hn]
      · simp [hg, other, ih]

/-- Every group stays in its place, with its components, if it does when the group of the name and
the groups below that one are changed. -/
theorem at?_updateNamed_of_some {gs : List GroupNode} {g : GroupNode} {chain : List String}
    (keeps : ∀ first, (f first).name = first.name)
    (top : ∀ first, (f first).path = first.path ∧ first.components ⊆ (f first).components)
    (sub : ∀ first rest, at? rest first.subgroups = some g →
      ∃ g', at? rest (f first).subgroups = some g' ∧ g'.path = g.path ∧
        g.components ⊆ g'.components)
    (h : at? chain gs = some g) :
    ∃ g', at? chain (updateNamed name path f gs) = some g' ∧ g'.path = g.path ∧
      g.components ⊆ g'.components := by
  cases chain with
  | nil => cases h
  | cons n rest =>
    obtain ⟨first, found, below⟩ := Option.bind_eq_some_iff.1 h
    rw [at?, find?_updateNamed keeps]
    split
    · next same =>
      subst same
      rw [found, Option.getD_some, Option.bind_some]
      split at below
      · next last =>
        obtain rfl := Option.some.inj below
        exact ⟨_, if_pos last, top _⟩
      · next further =>
        rw [if_neg further]
        exact sub first rest below
    · exact ⟨g, h, rfl, List.Subset.refl _⟩

end named

/-! ## Changing the group at the end of a chain -/

section chain

variable {f : GroupNode → GroupNode} {added : List String} (hf : Adds f added)
  {above chain : List String} {gs : List GroupNode} {g : GroupNode}

include hf

/-- The components of the tree become more by those that are added to a group. -/
theorem perm_held_updateAt (hne : chain ≠ []) :
    (held (updateAt f above chain gs)).Perm (added ++ held gs) := by
  fun_induction updateAt f above chain gs with
  | case1 => exact absurd rfl hne
  | case2 above name gs =>
    refine perm_held_updateNamed (fun g => ?_) gs
    simp only [held_cons, hf.components_eq, hf.subgroups_eq, held_nil, List.append_nil,
      List.append_assoc]
    exact List.perm_append_comm_assoc _ _ _
  | case3 above name rest gs more ih =>
    refine perm_held_updateNamed (fun g => ?_) gs
    simp only [held_cons, components_withSubgroups, subgroups_withSubgroups, held_nil,
      List.append_nil]
    have below := ih g fun e => more (by simpa using e)
    exact (below.append_left _).trans (List.perm_append_comm_assoc _ _ _)

/-- The group at the end of the chain is the one that is changed, and is made if it is missing. -/
theorem at?_updateAt (hne : chain ≠ []) :
    at? chain (updateAt f above chain gs) = some (f ((at? chain gs).getD
      (node (chain.getLast hne) (join "/" (above ++ chain)) [] []))) := by
  fun_induction updateAt f above chain gs with
  | case1 => exact absurd rfl hne
  | case2 above name gs =>
    simp only [at?, find?_updateNamed hf.name_eq]
    cases found : gs.find? (·.name == name) <;> simp
  | case3 above name rest gs more ih =>
    have hrest : rest ≠ [] := fun e => more (by simpa using e)
    have keeps (g : GroupNode) : (g.withSubgroups
        (updateAt f (above ++ [name]) rest g.subgroups)).name = g.name := by simp
    simp only [at?, find?_updateNamed keeps, if_pos, Option.bind_some, subgroups_withSubgroups,
      List.isEmpty_iff, hrest, if_false, ih _ hrest, List.getLast_cons hrest, List.append_assoc,
      List.singleton_append]
    cases found : gs.find? (·.name == name) with
    | none =>
      have empty : at? rest (subgroups (node name (join "/" (above ++ [name])) [] [])) = none := by
        cases rest <;> rfl
      simp [empty]
    | some g => simp

/-- Every group stays in its place, with its components. -/
theorem at?_updateAt_of_some {other : List String} (h : at? other gs = some g) :
    ∃ g', at? other (updateAt f above chain gs) = some g' ∧ g'.path = g.path ∧
      g.components ⊆ g'.components := by
  fun_induction updateAt f above chain gs generalizing other with
  | case1 => exact ⟨g, h, rfl, List.Subset.refl _⟩
  | case2 above name gs =>
    refine at?_updateNamed_of_some hf.name_eq (fun first => ⟨hf.path_eq first, ?_⟩) ?_ h
    · rw [hf.components_eq]
      exact List.subset_append_left _ _
    · intro first rest below
      exact ⟨g, by rwa [hf.subgroups_eq], rfl, List.Subset.refl _⟩
  | case3 above name tail gs more ih =>
    refine at?_updateNamed_of_some (fun first => name_withSubgroups _ first) ?_ ?_ h
    · exact fun first => ⟨path_withSubgroups _ _, by rw [components_withSubgroups]; exact .refl _⟩
    · intro first rest below
      rw [subgroups_withSubgroups]
      exact ih first below

end chain

/-! ## Paths -/

/-- The groups of a tree that stands below a chain of names have the chains that lead to them as
their paths. -/
def PathsFrom (above : List String) (gs : List GroupNode) : Prop :=
  ∀ chain g, at? chain gs = some g → g.path = join "/" (above ++ chain)

theorem pathsFrom_nil (above : List String) : PathsFrom above [] := by
  intro chain g h
  cases chain <;> cases h

/-- The paths of the outermost groups and of those below them. -/
theorem pathsFrom_iff {above : List String} {gs : List GroupNode} : PathsFrom above gs ↔
    ∀ name g, gs.find? (·.name == name) = some g →
      g.path = join "/" (above ++ [name]) ∧ PathsFrom (above ++ [name]) g.subgroups := by
  constructor
  · intro fits name g found
    refine ⟨fits [name] g (by simp [at?, found]), fun chain g' h => ?_⟩
    have hne : chain ≠ [] := by
      rintro rfl
      cases h
    have whole : at? (name :: chain) gs = some g' := by simp [at?, found, hne, h]
    rw [fits _ _ whole, List.append_assoc, List.singleton_append]
  · intro each chain g h
    cases chain with
    | nil => cases h
    | cons name rest =>
      obtain ⟨first, found, below⟩ := Option.bind_eq_some_iff.1 h
      obtain ⟨path, fits⟩ := each name first found
      split at below
      · next last =>
        obtain rfl := Option.some.inj below
        rw [path, List.isEmpty_iff.1 last]
      · rw [fits rest g below, List.append_assoc, List.singleton_append]

/-- A change of the group of a name keeps the paths if it keeps those of that group and below it. -/
theorem PathsFrom.updateNamed {f : GroupNode → GroupNode} {above : List String} {name : String}
    {gs : List GroupNode} (keeps : ∀ g, (f g).name = g.name)
    (fits : ∀ g, g.path = join "/" (above ++ [name]) → PathsFrom (above ++ [name]) g.subgroups →
      (f g).path = join "/" (above ++ [name]) ∧ PathsFrom (above ++ [name]) (f g).subgroups)
    (h : PathsFrom above gs) :
    PathsFrom above (updateNamed name (join "/" (above ++ [name])) f gs) := by
  refine pathsFrom_iff.2 fun n g found => ?_
  rw [find?_updateNamed keeps] at found
  split at found
  · next same =>
    obtain rfl := Option.some.inj found
    rw [same]
    cases old : gs.find? (·.name == name) with
    -- A group that is missing is made with its path and nothing below.
    | none => exact fits _ rfl (pathsFrom_nil _)
    | some g =>
      obtain ⟨path, below⟩ := pathsFrom_iff.1 h name g old
      exact fits g path below
  · exact pathsFrom_iff.1 h n g found

/-- A change at the end of a chain keeps the paths, and groups that are made on the way get
theirs. -/
theorem PathsFrom.updateAt {f : GroupNode → GroupNode} {added : List String} (hf : Adds f added)
    {above chain : List String} {gs : List GroupNode} (h : PathsFrom above gs) :
    PathsFrom above (updateAt f above chain gs) := by
  fun_induction GroupNode.updateAt f above chain gs with
  | case1 => exact h
  | case2 above name gs =>
    refine h.updateNamed hf.name_eq fun g path below => ?_
    rw [hf.path_eq, hf.subgroups_eq]
    exact ⟨path, below⟩
  | case3 above name rest gs more ih =>
    refine h.updateNamed (fun g => name_withSubgroups _ g) fun g path below => ?_
    rw [path_withSubgroups, subgroups_withSubgroups]
    exact ⟨path, ih g below⟩

/-! ## Changing the first group of a name -/

section first

variable {name : String} {f : GroupNode → GroupNode} {added : List String}

mutual

theorem updateFirst?_eq_none_iff (g : GroupNode) :
    updateFirst? name f g = none ↔ name ∉ names [g] := by
  obtain ⟨n, p, cs, gs⟩ := g
  rw [updateFirst?, names_cons]
  split
  · next same => simp [GroupNode.name, same]
  · next other =>
    rw [Option.map_eq_none_iff, updateFirstIn?_eq_none_iff gs]
    have other' : ¬name = n := fun e => other e.symm
    simp [GroupNode.name, subgroups, other', names, allIn]

/-- A group is changed if one has the name. -/
theorem updateFirstIn?_eq_none_iff (gs : List GroupNode) :
    updateFirstIn? name f gs = none ↔ name ∉ names gs := by
  cases gs with
  | nil => simp [updateFirstIn?, names, allIn]
  | cons g gs =>
    rw [updateFirstIn?, names_split, List.mem_append, not_or, ← updateFirst?_eq_none_iff g,
      ← updateFirstIn?_eq_none_iff gs]
    cases updateFirst? name f g <;> simp

end

mutual

theorem of_updateFirst? (hf : Adds f added) {g g' : GroupNode}
    (h : updateFirst? name f g = some g') :
    (held [g']).Perm (added ++ held [g]) ∧ names [g'] = names [g] := by
  obtain ⟨n, p, cs, gs⟩ := g
  rw [updateFirst?] at h
  split at h
  · obtain rfl := Option.some.inj h
    rw [hf]
    simp only [held_cons, names_cons, GroupNode.name, components, subgroups, held_nil,
      List.append_nil, List.append_assoc, and_true]
    exact List.perm_append_comm_assoc _ _ _
  · obtain ⟨gs', below, rfl⟩ := Option.map_eq_some_iff.1 h
    obtain ⟨perm, same⟩ := perm_held_of_updateFirstIn? hf below
    simp only [held_cons, names_cons, GroupNode.name, components, subgroups, held_nil,
      List.append_nil, same, and_true]
    exact (perm.append_left _).trans (List.perm_append_comm_assoc _ _ _)

/-- The components of the tree become more by those that are added, and no name changes. -/
theorem perm_held_of_updateFirstIn? (hf : Adds f added) {gs gs' : List GroupNode}
    (h : updateFirstIn? name f gs = some gs') :
    (held gs').Perm (added ++ held gs) ∧ names gs' = names gs := by
  cases gs with
  | nil => cases h
  | cons g gs =>
    rw [updateFirstIn?] at h
    split at h
    · next g' changed =>
      obtain rfl := Option.some.inj h
      obtain ⟨perm, same⟩ := of_updateFirst? hf changed
      rw [held_split g', held_split g, names_split g', names_split g, same, ← List.append_assoc]
      exact ⟨perm.append_right _, rfl⟩
    · obtain ⟨rest, changed, rfl⟩ := Option.map_eq_some_iff.1 h
      obtain ⟨perm, same⟩ := perm_held_of_updateFirstIn? hf changed
      rw [held_split g rest, held_split g gs, names_split g rest, names_split g gs, same]
      exact ⟨(perm.append_left _).trans (List.perm_append_comm_assoc _ _ _), rfl⟩

end

end first

end ArchModel.GroupNode
