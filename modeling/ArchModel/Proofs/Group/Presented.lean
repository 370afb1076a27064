import ArchModel.Proofs.Group.Chained
import ArchModel.Proofs.Group.Placement

/-!
# What the tree of groups shows

The tree of groups is built from the configured chains of names, and components are attached to
groups that are found or made on the way.

* `Groups.unknown?` is the group of a component that is none of the configured groups.
  `Component.home?` is the chain of the group that a component belongs to in a tree.
* `GroupPlacement.Arranged` holds where some components were placed. It holds of the configured tree
  (`arranged_start`), and placing one more component keeps it or tells of an unknown group
  (`Arranged.place`, `place_unknown`).
* `Presents` is what a finished tree shows of groups and components.
* **`buildGroups_presents`**: there is such a tree, or the unknown groups are all told of.
-/

namespace ArchModel

open Text GroupNode

/-! ## The configured chains -/

namespace Groups

variable {g : Groups} {path names : List String} {around : List Nat} {level fuel : Nat}
  {x : List String × Nat}

/-- The way to a level leads by the levels above it. -/
theorem exists_walkFrom_of_prefix (h : x ∈ g.walkFrom path around level fuel)
    (inside : names <+: x.1) (longer : path.length < names.length) :
    ∃ y ∈ g.walkFrom path around level fuel, y.1 = names := by
  induction fuel generalizing path around level with
  | zero => simp [walkFrom] at h
  | succ fuel ih =>
    obtain ⟨apart, e, he, last⟩ := mem_walkFrom_iff.1 h
    have first : path ++ [e.1] <+: x.1 := by
      rcases last with rfl | deeper
      · exact List.prefix_rfl
      · obtain ⟨rest, -, whole⟩ := exists_append_of_mem_walkFrom deeper
        exact whole ▸ List.prefix_append _ _
    by_cases short : names.length = (path ++ [e.1]).length
    · have same : path ++ [e.1] = names :=
        (List.prefix_of_prefix_length_le first inside short.ge).eq_of_length short.symm
      exact ⟨(path ++ [e.1], e.2), mem_walkFrom_iff.2 ⟨apart, e, he, .inl rfl⟩, same⟩
    · rw [List.length_append, List.length_singleton] at short
      rcases last with rfl | deeper
      · have := inside.length_le
        rw [List.length_append, List.length_singleton] at this
        omega
      · obtain ⟨y, hy, same⟩ := ih deeper (by
          rw [List.length_append, List.length_singleton]
          omega)
        exact ⟨y, mem_walkFrom_iff.2 ⟨apart, e, he, .inr hy⟩, same⟩

/-- With a chain the chains that it starts with are configured. -/
theorem mem_walk_of_prefix (h : names ∈ g.walk.map Prod.fst) {start : List String}
    (hne : start ≠ []) (inside : start <+: names) : start ∈ g.walk.map Prod.fst := by
  obtain ⟨x, hx, rfl⟩ := List.mem_map.1 h
  obtain ⟨y, hy, rfl⟩ := exists_walkFrom_of_prefix hx inside (List.length_pos_of_ne_nil hne)
  exact List.mem_map_of_mem hy

theorem mem_names_iff_exists_chain {name : String} :
    name ∈ g.names ↔ ∃ chain ∈ g.walk.map Prod.fst, chain.getLast? = some name := by
  rw [mem_names_iff]
  simp

/-- The names on a configured chain are configured. -/
theorem mem_names_of_mem_chain (h : names ∈ g.walk.map Prod.fst) :
    ∀ name ∈ names, name ∈ g.names := by
  intro name hn
  obtain ⟨before, after, rfl⟩ := List.append_of_mem hn
  have inside : before ++ [name] <+: before ++ name :: after :=
    ⟨after, by rw [List.append_assoc, List.singleton_append]⟩
  refine mem_names_iff_exists_chain.2 ⟨_, mem_walk_of_prefix h ?_ inside, ?_⟩
  · exact List.append_ne_nil_of_right_ne_nil _ (List.cons_ne_nil _ _)
  · exact List.getLast?_concat

end Groups

/-- Names without slashes can be read off their path. -/
theorem split_join_slash {names : List String} (hne : names ≠ [])
    (plain : ∀ name ∈ names, '/' ∉ name.toList) : split '/' (join "/" names) = names := by
  have apart : ∀ cs ∈ names.map String.toList, '/' ∉ cs := by simpa using plain
  have slash : "/".toList = ['/'] := rfl
  rw [split, toList_join, slash, List.splitOn_intercalate '/' apart (by simpa using hne)]
  simp

/-- The parts of a path make up the path. -/
theorem join_split_slash (path : String) : join "/" (split '/' path) = path := by
  have slash : "/".toList = ['/'] := rfl
  refine String.toList_inj.1 ?_
  rw [toList_join, split, List.map_map, slash]
  have parts : (path.toList.splitOn '/').map (String.toList ∘ String.ofList) =
      path.toList.splitOn '/' := by simp [Function.comp_def]
  rw [parts, List.intercalate_splitOn]

/-- The tree of some chains has the groups on these chains and no other ones. -/
theorem isSome_at?_foldl_ensure {chains : List (List String)} {chain : List String} :
    (at? chain (chains.foldl (fun gs chain => ensure chain gs) [])).isSome ↔
      chain ≠ [] ∧ ∃ whole ∈ chains, chain <+: whole := by
  induction chains using List.reverseRecOn with
  | nil => cases chain <;> simp [at?]
  | append_singleton chains last ih =>
    rw [List.foldl_append, List.foldl_cons, List.foldl_nil, ensure, isSome_at?_updateAt adds_id, ih]
    simp only [List.mem_append, List.mem_singleton, or_and_right, exists_or, exists_eq_left]
    exact and_or_left.symm

theorem apart_foldl_ensure (chains : List (List String)) :
    Apart (chains.foldl (fun gs chain => ensure chain gs) []) := by
  induction chains using List.reverseRecOn with
  | nil => exact apart_nil
  | append_singleton chains last ih =>
    rw [List.foldl_append]
    exact ih.updateAt adds_id

/-- The configured tree has the configured groups. -/
theorem Groups.isSome_at?_tree {g : Groups} {chain : List String} :
    (at? chain g.tree).isSome ↔ chain ∈ g.walk.map Prod.fst := by
  rw [Groups.tree, isSome_at?_foldl_ensure]
  constructor
  · rintro ⟨hne, whole, listed, inside⟩
    exact mem_walk_of_prefix listed hne inside
  · exact fun listed => ⟨ne_nil_of_mem_map_walk _ listed, chain, listed, List.prefix_rfl⟩

/-! ## Placing -/

/-- What a component may name under a policy: the path of a group, or its name alone. -/
def Groups.known (g : Groups) (policy : GroupPolicy) : List String :=
  if policy = .flat then g.names else g.paths

/-- The group that a component names, if groups are configured and it is none of them. -/
def Groups.unknown? (g : Groups) (policy : GroupPolicy) (c : Component) : Option String :=
  (GroupPlacement.place.nonempty c.group).filter fun group =>
    !g.isEmpty && !(g.known policy).contains group

/-- The chain of the group that a component belongs to in a tree, if it names a group: the first
chain that ends in the name, or the chain that the path stands for. -/
def Component.home? (policy : GroupPolicy) (roots : List GroupNode) (c : Component) :
    Option (List String) :=
  (GroupPlacement.place.nonempty c.group).bind fun group =>
    if policy = .flat then ((placedIn [] roots).find? (·.2.name == group)).map (·.1)
    else some (split '/' group)

namespace GroupPlacement

variable {groups : Groups} {policy : GroupPolicy} {placed : List Component}
  {aside : List String} {roots : List GroupNode} {c : Component} {group : String}

/-- What holds where some components were placed. -/
structure Arranged (groups : Groups) (policy : GroupPolicy) (placed : List Component)
    (aside : List String) (roots : List GroupNode) : Prop where
  /-- Beside the tree stand the components without a group. -/
  ungrouped : aside = Component.names (placed.filter fun c => (place.nonempty c.group).isNone)
  /-- Each component is somewhere once. -/
  held : (aside ++ held roots).Perm (Component.names placed)
  apart : Apart roots
  paths : PathsFrom [] roots
  configured : ∀ chain ∈ groups.walk.map Prod.fst, (at? chain roots).isSome
  /-- A group has the components that belong to it. -/
  components : ∀ chain, componentsAt roots chain =
    Component.names (placed.filter fun c => c.home? policy roots = some chain)
  /-- A component that names a group belongs to one of the tree. -/
  there : ∀ c ∈ placed, ∀ group, place.nonempty c.group = some group →
    ∃ chain, c.home? policy roots = some chain ∧ (at? chain roots).isSome
  /-- No group is made that is not configured, unless a name has a slash. -/
  exact : groups.isEmpty = false → (policy = .flat ∨ ∀ name ∈ groups.names, '/' ∉ name.toList) →
    ∀ chain, (at? chain roots).isSome → chain ∈ groups.walk.map Prod.fst

theorem arranged_start (groups : Groups) (policy : GroupPolicy) :
    Arranged groups policy [] [] groups.tree := by
  obtain ⟨empty, paths, -⟩ := foldl_ensure groups.ne_nil_of_mem_map_walk
  have none (chain : List String) : componentsAt groups.tree chain = [] := by
    rw [componentsAt]
    cases found : at? chain groups.tree with
    | none => rfl
    | some g =>
      have nothing : held groups.tree = [] := empty
      rw [held, List.flatMap_eq_nil_iff] at nothing
      exact nothing g (mem_allIn_of_at? found).1
  refine ⟨rfl, .of_eq empty, apart_foldl_ensure _, paths, fun chain hc => ?_, ?_, by simp, ?_⟩
  · exact Groups.isSome_at?_tree.2 hc
  · exact fun chain => none chain
  · exact fun _ _ chain found => Groups.isSome_at?_tree.1 found

theorem home?_of_ungrouped (without : place.nonempty c.group = none) (roots : List GroupNode) :
    c.home? policy roots = none := by
  rw [Component.home?, without, Option.bind_none]

namespace Arranged

variable (h : Arranged groups policy placed aside roots)

include h

/-- A component without a group stands beside the tree. -/
theorem setAside (without : place.nonempty c.group = none) :
    Arranged groups policy (placed ++ [c]) (aside ++ [c.name]) roots := by
  refine ⟨?_, perm_names_of_aside h.held, h.apart, h.paths, h.configured, fun chain => ?_, ?_,
    h.exact⟩
  · rw [List.filter_append, h.ungrouped, Component.names, Component.names, List.map_append]
    simp [without]
  · rw [List.filter_append, h.components, List.filter_cons_of_neg, List.filter_nil, List.append_nil]
    simp [home?_of_ungrouped without]
  · rw [List.forall_mem_append]
    refine ⟨h.there, ?_⟩
    simp [without]

/-- A component is attached to the group that it belongs to, and the others stay with theirs. -/
theorem attach {chain : List String} (named : place.nonempty c.group = some group)
    (hne : chain ≠ [])
    (home : c.home? policy (updateAt (addComponent c.name) [] chain roots) = some chain)
    (stable : ∀ d ∈ placed,
      d.home? policy (updateAt (addComponent c.name) [] chain roots) = d.home? policy roots)
    (exact : groups.isEmpty = false →
      (policy = .flat ∨ ∀ name ∈ groups.names, '/' ∉ name.toList) →
        chain ∈ groups.walk.map Prod.fst) :
    Arranged groups policy (placed ++ [c]) aside
      (updateAt (addComponent c.name) [] chain roots) := by
  have adds := adds_addComponent c.name
  refine ⟨?_, perm_names_of_inside h.held (perm_held_updateAt adds hne), h.apart.updateAt adds,
    h.paths.updateAt adds, ?_, fun other => ?_, ?_, ?_⟩
  · rw [List.filter_append, h.ungrouped]
    simp [named]
  · intro chain' listed
    exact (isSome_at?_updateAt adds).2 (.inl (h.configured chain' listed))
  · rw [componentsAt_updateAt adds hne, h.components, List.filter_append, Component.names,
      Component.names, List.map_append]
    congr 1
    · refine congrArg _ (List.filter_congr fun d hd => ?_)
      rw [stable d hd]
    · by_cases same : other = chain
      · simp [home, same]
      · simp [home, same, Ne.symm same]
  · rw [List.forall_mem_append]
    constructor
    · intro d hd group' named'
      obtain ⟨chain', home', found⟩ := h.there d hd group' named'
      exact ⟨chain', (stable d hd).trans home', (isSome_at?_updateAt adds).2 (.inl found)⟩
    · simp only [List.mem_singleton, forall_eq]
      exact fun _ _ => ⟨chain, home, (isSome_at?_updateAt adds).2 (.inr ⟨hne, List.prefix_rfl⟩)⟩
  · intro configured plain other found
    rcases (isSome_at?_updateAt adds).1 found with before | ⟨hne', inside⟩
    · exact h.exact configured plain other before
    · exact Groups.mem_walk_of_prefix (exact configured plain) hne' inside

end Arranged

/-! ## Placing one component -/

variable {s : GroupPlacement}

theorem unknown?_eq_none_iff (named : place.nonempty c.group = some group) :
    groups.unknown? policy c = none ↔
      (!groups.isEmpty && !(groups.known policy).contains group) = false := by
  rw [Groups.unknown?, named]
  simp [Option.filter]

theorem place_ungrouped (without : place.nonempty c.group = none) :
    place groups policy s c = { s with ungrouped := s.ungrouped ++ [c.name] } := by
  rw [place, without]

section named

variable (named : place.nonempty c.group = some group)

include named

theorem place_at (free : (!groups.isEmpty && !groups.paths.contains group) = false) :
    place groups .path s c =
      { s with roots := updateAt (addComponent c.name) [] (split '/' group) s.roots } := by
  rw [place, named]
  simp only [free, Bool.false_eq_true, if_false]

theorem place_first {roots : List GroupNode}
    (changed : updateFirstIn? group (addComponent c.name) s.roots = some roots) :
    place groups .flat s c = { s with roots } := by
  rw [place, named]
  simp only [changed]

theorem place_new (missing : updateFirstIn? group (addComponent c.name) s.roots = none)
    (empty : groups.isEmpty = true) : place groups .flat s c =
      { s with roots := updateAt (addComponent c.name) [] [group] s.roots } := by
  rw [place, named]
  simp only [missing, empty, if_true]

end named

/-- By names alone, the first group of a name stays where it is. -/
theorem home?_flat (apart : Apart roots) (c : Component) : c.home? .flat roots =
    (place.nonempty c.group).bind fun group =>
      ((placedIn [] roots).map (·.1)).find? (·.getLast? == some group) := by
  rw [Component.home?]
  refine congrArg _ (funext fun group => ?_)
  rw [if_pos rfl, apart.map_fst_find?]

namespace Arranged

section path

variable (h : Arranged groups .path placed aside roots)

include h

/-- By paths, a component is attached at the end of the chain that its group is divided into. -/
theorem attach_split (named : place.nonempty c.group = some group)
    (free : (!groups.isEmpty && !groups.paths.contains group) = false) :
    Arranged groups .path (placed ++ [c]) aside
      (updateAt (addComponent c.name) [] (split '/' group) roots) := by
  refine h.attach named (split_ne_nil _ _) ?_ (fun d _ => rfl) fun configured plain => ?_
  · simp [Component.home?, named]
  · have plain := plain.resolve_left (by decide)
    have listed : group ∈ groups.paths := by simpa [configured] using free
    obtain ⟨x, hx, rfl⟩ := Groups.mem_paths_iff.1 listed
    have chain : x.1 ∈ groups.walk.map Prod.fst := List.mem_map_of_mem hx
    rw [split_join_slash (Groups.ne_nil_of_mem_walk hx) fun name hn =>
      plain name (Groups.mem_names_of_mem_chain chain name hn)]
    exact chain

end path

section flat

variable (h : Arranged groups .flat placed aside roots)

include h

/-- By names alone, a component is attached to the first group of its name. -/
theorem attach_first (named : place.nonempty c.group = some group) {roots' : List GroupNode}
    (changed : updateFirstIn? group (addComponent c.name) roots = some roots') :
    Arranged groups .flat (placed ++ [c]) aside roots' := by
  have adds := adds_addComponent c.name
  obtain ⟨chain, first, hne, found, rfl⟩ := exists_updateAt_of_updateFirstIn? [] h.apart changed
  have there : (at? chain roots).isSome := by
    rw [h.apart.mem_placedIn_iff.1 (List.mem_of_find?_eq_some found)]
    rfl
  have same (d : Component) : d.home? .flat (updateAt (addComponent c.name) [] chain roots) =
      d.home? .flat roots := by
    rw [home?_flat (h.apart.updateAt adds), home?_flat h.apart, chains_updateAt adds there]
  refine h.attach named hne ?_ (fun d _ => same d) fun configured plain => ?_
  · rw [same, Component.home?, named, Option.bind_some, if_pos rfl, found]
    rfl
  · exact h.exact configured plain chain there

/-- Every configured name is that of a group of the tree. -/
theorem mem_names_of_configured (listed : group ∈ groups.names) : group ∈ names roots := by
  obtain ⟨chain, hc, last⟩ := Groups.mem_names_iff_exists_chain.1 listed
  obtain ⟨g, found⟩ := Option.isSome_iff_exists.1 (h.configured chain hc)
  exact mem_names_of_at? found last

/-- Without a configuration, a group of a new name is made for a component. -/
theorem attach_new (named : place.nonempty c.group = some group) (missing : group ∉ names roots)
    (empty : groups.isEmpty = true) :
    Arranged groups .flat (placed ++ [c]) aside
      (updateAt (addComponent c.name) [] [group] roots) := by
  have adds := adds_addComponent c.name
  have fresh : group ∉ roots.map name := by
    intro listed
    obtain ⟨g, found⟩ := Option.isSome_iff_exists.1 (isSome_at?_singleton.2 listed)
    exact missing (mem_names_of_at? found rfl)
  have none := h.apart.map_fst_find? group
  rw [find?_placedIn_eq_none [] missing] at none
  refine h.attach named (List.cons_ne_nil _ _) ?_ (fun d hd => ?_) fun configured => ?_
  · rw [home?_flat (h.apart.updateAt adds), chains_updateAt_fresh adds fresh, named,
      Option.bind_some, List.find?_append, ← none]
    simp
  · rw [home?_flat (h.apart.updateAt adds), home?_flat h.apart, chains_updateAt_fresh adds fresh]
    cases named' : place.nonempty d.group with
    | none => rfl
    | some group' =>
      obtain ⟨chain, home, -⟩ := h.there d hd group' named'
      rw [home?_flat h.apart, named', Option.bind_some] at home
      rw [Option.bind_some, Option.bind_some, List.find?_append, home, Option.some_or]
  · exact absurd empty (by simp [configured])

end flat

end Arranged

/-- A component that names no unknown group is placed, and what was placed stays. -/
theorem Arranged.place (h : Arranged groups policy placed s.ungrouped s.roots)
    (known : groups.unknown? policy c = none) :
    let s' := GroupPlacement.place groups policy s c
    Arranged groups policy (placed ++ [c]) s'.ungrouped s'.roots ∧ s'.unknown = s.unknown := by
  dsimp only
  cases named : place.nonempty c.group with
  | none =>
    rw [place_ungrouped named]
    exact ⟨h.setAside named, rfl⟩
  | some group =>
    have free := (unknown?_eq_none_iff named).1 known
    cases policy with
    | path =>
      rw [place_at named free]
      exact ⟨h.attach_split named free, rfl⟩
    | flat =>
      cases changed : updateFirstIn? group (addComponent c.name) s.roots with
      | some roots =>
        rw [place_first named changed]
        exact ⟨h.attach_first named changed, rfl⟩
      | none =>
        have missing : group ∉ names s.roots := (updateFirstIn?_eq_none_iff s.roots).1 changed
        have empty : groups.isEmpty = true := by
          by_contra configured
          rw [Bool.not_eq_true] at configured
          have listed : group ∈ groups.names := by simpa [configured, Groups.known] using free
          exact missing (h.mem_names_of_configured listed)
        rw [place_new named changed empty]
        exact ⟨h.attach_new named missing empty, rfl⟩

/-- A component that names an unknown group is told of. -/
theorem Arranged.place_unknown (h : Arranged groups policy placed s.ungrouped s.roots)
    (unknown : groups.unknown? policy c = some group) : GroupPlacement.place groups policy s c =
      { s with unknown := s.unknown ++ [.unknownGroup c.name group] } := by
  obtain ⟨named, outside⟩ := Option.filter_eq_some_iff.1 unknown
  rw [GroupPlacement.place, named]
  cases policy with
  | path =>
    have outside : (!groups.isEmpty && !groups.paths.contains group) = true := outside
    simp only [outside, if_true]
  | flat =>
    obtain ⟨configured, apart⟩ : groups.isEmpty = false ∧ group ∉ groups.names := by
      simpa [Groups.known] using outside
    have missing : updateFirstIn? group (addComponent c.name) s.roots = none := by
      refine (updateFirstIn?_eq_none_iff s.roots).2 fun listed => apart ?_
      obtain ⟨g, hg, rfl⟩ := List.mem_map.1 listed
      obtain ⟨chain, found⟩ := h.apart.exists_at? hg
      have there : (at? chain s.roots).isSome := by
        rw [found]
        rfl
      exact Groups.mem_names_iff_exists_chain.2
        ⟨chain, h.exact configured (.inl rfl) chain there, (mem_allIn_of_at? found).2⟩
    simp only [missing, configured, Bool.false_eq_true, if_false]

/-- The faults of the components that name unknown groups. -/
def unknownFaults (groups : Groups) (policy : GroupPolicy) (cs : List Component) :
    List ConfigFault :=
  cs.filterMap fun c => (groups.unknown? policy c).map (.unknownGroup c.name)

/-- All components are placed or told of. -/
theorem arranged_foldl (groups : Groups) (policy : GroupPolicy) (cs : List Component) :
    let s := cs.foldl (GroupPlacement.place groups policy) { roots := groups.tree }
    Arranged groups policy (cs.filter fun c => (groups.unknown? policy c).isNone) s.ungrouped
        s.roots ∧ s.unknown = unknownFaults groups policy cs := by
  induction cs using List.reverseRecOn with
  | nil => exact ⟨arranged_start groups policy, rfl⟩
  | append_singleton cs c ih =>
    obtain ⟨h, told⟩ := ih
    rw [List.foldl_append, List.foldl_cons, List.foldl_nil, List.filter_append, unknownFaults,
      List.filterMap_append, ← unknownFaults, ← told]
    cases unknown : groups.unknown? policy c with
    | none =>
      obtain ⟨h', told'⟩ := h.place unknown
      simp only [List.filter_cons, unknown, List.filterMap_cons]
      simpa using ⟨h', told'⟩
    | some group =>
      rw [h.place_unknown unknown]
      simpa [unknown] using h

end GroupPlacement

/-! ## The finished tree -/

/-- What a finished tree shows of groups and components: `aside` stand beside it. -/
structure Presents (groups : Groups) (policy : GroupPolicy) (cs : List Component)
    (aside : List String) (roots : List GroupNode) : Prop where
  /-- Beside the tree stand the components without a group, in their order. -/
  ungrouped : aside =
    Component.names (cs.filter fun c => (GroupPlacement.place.nonempty c.group).isNone)
  /-- Each component is somewhere once. -/
  held : (aside ++ GroupNode.held roots).Perm (Component.names cs)
  /-- Groups side by side have different names. -/
  apart : Apart roots
  /-- The path of a group is its chain of names. -/
  paths : ∀ x ∈ placedIn [] roots, x.2.path = join "/" x.1
  /-- A group has the components that belong to it, in their order. -/
  components : ∀ x ∈ placedIn [] roots, x.2.components =
    Component.names (cs.filter fun c => c.home? policy roots = some x.1)
  /-- Configured groups are in the tree. -/
  configured : ∀ path ∈ groups.paths, ∃ g ∈ allIn roots, g.path = path
  /-- By paths, a component is in a group of its path. -/
  byPath : policy = .path → ∀ c ∈ cs, ∀ group, c.group = some group → group ≠ "" →
    ∃ g ∈ allIn roots, g.path = group ∧ c.name ∈ g.components
  /-- By names alone, a component is in the first group of its name. -/
  byName : policy = .flat → ∀ c ∈ cs, ∀ group, c.group = some group → group ≠ "" →
    ∃ g, (allIn roots).find? (·.name == group) = some g ∧ c.name ∈ g.components
  /-- If groups are configured, and no name has a slash, their paths are in the tree once each, and
  no other ones. -/
  exact : groups.isEmpty = false → (∀ name ∈ groups.names, '/' ∉ name.toList) →
    ((allIn roots).map path).Nodup ∧ ∀ p, p ∈ (allIn roots).map path ↔ p ∈ groups.paths

namespace GroupPlacement.Arranged

variable {groups : Groups} {policy : GroupPolicy} {cs : List Component} {aside : List String}
  {roots : List GroupNode} (h : Arranged groups policy cs aside roots)

include h

/-- Each group is at the end of its chain, and has the components that belong to it. -/
theorem at_placedIn {x : List String × GroupNode} (hx : x ∈ placedIn [] roots) :
    at? x.1 roots = some x.2 ∧ x.2.path = join "/" x.1 ∧
      x.2.components = Component.names (cs.filter fun c => c.home? policy roots = some x.1) := by
  have found : at? x.1 roots = some x.2 := h.apart.mem_placedIn_iff.1 hx
  have own := h.components x.1
  rw [componentsAt, found] at own
  exact ⟨found, h.paths x.1 x.2 found, own⟩

/-- A component that names a group is in the group that it belongs to. -/
theorem exists_home {c : Component} (hc : c ∈ cs) {group : String}
    (named : place.nonempty c.group = some group) :
    ∃ chain g, c.home? policy roots = some chain ∧ (chain, g) ∈ placedIn [] roots ∧
      c.name ∈ g.components := by
  obtain ⟨chain, home, there⟩ := h.there c hc group named
  obtain ⟨g, found⟩ := Option.isSome_iff_exists.1 there
  have listed : (chain, g) ∈ placedIn [] roots := h.apart.mem_placedIn_iff.2 found
  refine ⟨chain, g, home, listed, ?_⟩
  rw [(h.at_placedIn listed).2.2]
  exact List.mem_map_of_mem (List.mem_filter.2 ⟨hc, by simpa using home⟩)

/-- If groups are configured, and no name has a slash, the paths of the groups are the configured
ones, once each. -/
theorem exact_paths (configured : groups.isEmpty = false)
    (plain : ∀ name ∈ groups.names, '/' ∉ name.toList) :
    ((allIn roots).map path).Nodup ∧ ∀ p, p ∈ (allIn roots).map path ↔ p ∈ groups.paths := by
  have chains {x : List String × GroupNode} (hx : x ∈ placedIn [] roots) :
      x.1 ∈ groups.walk.map Prod.fst :=
    h.exact configured (.inr plain) x.1 (by rw [(h.at_placedIn hx).1]; rfl)
  have paths : (allIn roots).map path = (placedIn [] roots).map fun x => join "/" x.1 := by
    rw [← map_snd_placedIn [] roots, List.map_map]
    exact List.map_congr_left fun x hx => (h.at_placedIn hx).2.1
  have readable {x : List String × GroupNode} (hx : x ∈ placedIn [] roots) :
      split '/' (join "/" x.1) = x.1 :=
    split_join_slash (Groups.ne_nil_of_mem_map_walk _ (chains hx)) fun name hn =>
      plain name (Groups.mem_names_of_mem_chain (chains hx) name hn)
  rw [paths]
  constructor
  · have distinct := List.pairwise_map.1 (nodup_placedIn [] roots h.apart)
    refine List.pairwise_map.2 (distinct.imp_of_mem fun hx hy apart same => apart ?_)
    rw [← readable hx, ← readable hy, same]
  · intro p
    rw [List.mem_map, Groups.mem_paths_iff]
    constructor
    · rintro ⟨x, hx, rfl⟩
      obtain ⟨y, hy, same⟩ := List.mem_map.1 (chains hx)
      exact ⟨y, hy, by rw [same]⟩
    · rintro ⟨y, hy, rfl⟩
      obtain ⟨g, found⟩ := Option.isSome_iff_exists.1 (h.configured y.1 (List.mem_map_of_mem hy))
      exact ⟨(y.1, g), h.apart.mem_placedIn_iff.2 found, rfl⟩

theorem presents : Presents groups policy cs aside roots where
  ungrouped := h.ungrouped
  held := h.held
  apart := h.apart
  paths _ hx := (h.at_placedIn hx).2.1
  components _ hx := (h.at_placedIn hx).2.2
  configured path listed := by
    obtain ⟨x, hx, rfl⟩ := Groups.mem_paths_iff.1 listed
    obtain ⟨g, found⟩ := Option.isSome_iff_exists.1 (h.configured x.1 (List.mem_map_of_mem hx))
    exact ⟨g, (mem_allIn_of_at? found).1, h.paths x.1 g found⟩
  byPath := by
    rintro rfl c hc group own hne
    have named := nonempty_eq_some_iff.2 ⟨own, hne⟩
    obtain ⟨chain, g, home, listed, inside⟩ := h.exists_home hc named
    obtain ⟨found, path, -⟩ := h.at_placedIn listed
    obtain rfl : split '/' group = chain := by simpa [Component.home?, named] using home
    exact ⟨g, (mem_allIn_of_at? found).1, path.trans (join_split_slash group), inside⟩
  byName := by
    rintro rfl c hc group own hne
    have named := nonempty_eq_some_iff.2 ⟨own, hne⟩
    obtain ⟨chain, g, home, listed, inside⟩ := h.exists_home hc named
    rw [Component.home?, named, Option.bind_some, if_pos rfl] at home
    obtain ⟨x, first, rfl⟩ := Option.map_eq_some_iff.1 home
    have same : x.2 = g := by
      have found := (h.at_placedIn (List.mem_of_find?_eq_some first)).1
      exact Option.some.inj (found.symm.trans (h.at_placedIn listed).1)
    refine ⟨x.2, ?_, same ▸ inside⟩
    rw [← map_snd_placedIn [] roots, List.find?_map]
    exact congrArg (Option.map Prod.snd) first
  exact := h.exact_paths

end GroupPlacement.Arranged

/-- **The tree of groups**, for any components, groups and policy: if no component names an unknown
group, there is a tree, the node for components without a group stands in front of it, and it shows
the components and the configured groups. If there are such components, they are told of, one fault
each, in their order. -/
theorem buildGroups_presents (cs : List Component) (groups : Groups) (policy : GroupPolicy) :
    let unknown := GroupPlacement.unknownFaults groups policy cs
    unknown = [] ∧ (∃ aside roots, Presents groups policy cs aside roots ∧
        buildGroups cs groups policy = .ok (.node noGroup "" aside [] :: roots)) ∨
      unknown ≠ [] ∧
        buildGroups cs groups policy = .error { problem := .unknownGroups, faults := unknown } := by
  intro unknown
  obtain ⟨arranged, told⟩ := GroupPlacement.arranged_foldl groups policy cs
  rw [← groups.foldl_walk] at arranged told
  unfold buildGroups
  by_cases none : unknown = []
  · refine .inl ⟨none, _, _, ?_, if_pos (by rw [told, List.isEmpty_iff]; exact none)⟩
    have all : cs.filter (fun c => (groups.unknown? policy c).isNone) = cs := by
      refine List.filter_eq_self.2 fun c hc => ?_
      have known := List.filterMap_eq_nil_iff.1 none c hc
      simpa using known
    rw [all] at arranged
    exact arranged.presents
  · refine .inr ⟨none, ?_⟩
    rw [if_neg (by rw [told, List.isEmpty_iff]; exact none), told]

end ArchModel
