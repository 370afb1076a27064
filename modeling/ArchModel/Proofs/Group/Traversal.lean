import ArchModel.Proofs.Group.Chains

/-!
# The traversal of configured groups

The groups are traversed with a stack of levels to visit. Each visit gives the groups of a level and
puts the levels below them in front, unless the chain came by the level already.

* `Groups.Visits` are the runs of the traversal, without a bound; each run ends with `walk`
  (`visits_root_iff`).
* `Groups.positions` lists the chains below a level. Where the check finds no fault these are all
  chains (`mem_positions_iff`), each once (`nodup_positions`), and the traversal gives them in this
  order (`map_walkFrom`).
* **`ContainerConfig.groups_traversed`**: what the check accepts, and what the traversal gives.
-/

namespace ArchModel

namespace Groups

/-! ## Runs of the traversal -/

/-- A level to visit, with the names and the levels that lead to it. -/
structure Pending where
  path : List String
  level : Nat
  around : List Nat

namespace Pending

/-- The groups of a level. -/
def groups (g : Groups) (p : Pending) : List (List String × Nat) :=
  (g.entries p.level).map fun e => (p.path ++ [e.1], e.2)

/-- The levels below a level. -/
def below (g : Groups) (p : Pending) : List Pending :=
  (g.entries p.level).map fun e => ⟨p.path ++ [e.1], e.2, p.level :: p.around⟩

/-- What the traversal with a bound gives. -/
def walk (g : Groups) (fuel : Nat) (p : Pending) : List (List String × Nat) :=
  g.walkFrom p.path p.around p.level fuel

end Pending

/-- A run of the traversal from a stack of levels to visit, and the groups that it gives. -/
inductive Visits (g : Groups) : List Pending → List (List String × Nat) → Prop
  | done : Visits g [] []
  /-- A level that the chain came by is not visited again. -/
  | skip {p : Pending} {ps xs} (again : p.level ∈ p.around) (rest : Visits g ps xs) :
      Visits g (p :: ps) xs
  /-- The groups of a level are given, and the levels below it are the next ones to visit. -/
  | expand {p : Pending} {ps xs} (apart : p.level ∉ p.around)
      (rest : Visits g (p.below g ++ ps) xs) : Visits g (p :: ps) (p.groups g ++ xs)

variable {g : Groups} {path : List String} {around : List Nat} {level fuel : Nat}
  {xs ys : List (List String × Nat)}

theorem Visits.unique {stack : List Pending} (h : g.Visits stack xs) (h' : g.Visits stack ys) :
    xs = ys := by
  induction h generalizing ys with
  | done =>
    cases h'
    rfl
  | skip again rest ih =>
    cases h' with
    | skip _ rest' => exact ih rest'
    | expand apart => exact absurd again apart
  | expand apart rest ih =>
    cases h' with
    | skip again => exact absurd again apart
    | expand _ rest' => rw [ih rest']

theorem Pending.walk_succ (g : Groups) (fuel : Nat) (p : Pending) :
    p.walk g (fuel + 1) = if p.level ∈ p.around then []
      else p.groups g ++ (p.below g).flatMap (Pending.walk g fuel) := by
  rw [walk, walkFrom]
  by_cases again : p.level ∈ p.around
  · rw [if_pos (by simpa using again), if_pos again]
  · rw [if_neg (by simpa using again), if_neg again, groups, below, List.flatMap_map]
    dsimp only
    rw [List.flatMap_map]
    rfl

/-- A bound on how many more levels a chain can come by is enough for the traversal. -/
theorem visits_flatMap {ps stack : List Pending}
    (trails : ∀ p ∈ ps, g.Trail p.around ∧ g.levels.size < p.around.length + fuel)
    (rest : g.Visits stack xs) :
    g.Visits (ps ++ stack) (ps.flatMap (Pending.walk g fuel) ++ xs) := by
  induction fuel generalizing ps stack xs with
  | zero =>
    cases ps with
    | nil => exact rest
    | cons p ps =>
      obtain ⟨trail, enough⟩ := trails p List.mem_cons_self
      have := trail.length_le
      omega
  | succ fuel ihFuel =>
    induction ps with
    | nil => exact rest
    | cons p ps ih =>
      obtain ⟨⟨trail, enough⟩, others⟩ := List.forall_mem_cons.1 trails
      rw [List.flatMap_cons, Pending.walk_succ, List.append_assoc, List.cons_append]
      by_cases again : p.level ∈ p.around
      · rw [if_pos again]
        exact .skip again (ih others)
      · rw [if_neg again, List.append_assoc]
        refine .expand again (ihFuel (fun q hq => ?_) (ih others))
        obtain ⟨e, he, rfl⟩ := List.mem_map.1 hq
        have inside : p.level < g.levels.size := by
          by_contra beyond
          rw [entries_of_le (Nat.le_of_not_lt beyond)] at he
          cases he
        refine ⟨trail.cons inside again, ?_⟩
        rw [List.length_cons]
        omega

/-- The traversal ends, and with the chains of the configuration only. -/
theorem visits_root_iff : g.Visits [⟨[], g.root, []⟩] xs ↔ xs = g.walk := by
  have start : ∀ p ∈ [(⟨[], g.root, []⟩ : Pending)],
      g.Trail p.around ∧ g.levels.size < p.around.length + (g.levels.size + 2) := by
    intro p hp
    obtain rfl := List.mem_singleton.1 hp
    exact ⟨⟨List.nodup_nil, by simp⟩, by simp⟩
  have run := visits_flatMap start .done
  rw [List.append_nil, List.append_nil, List.flatMap_singleton] at run
  exact ⟨fun h => h.unique run, fun h => h ▸ run⟩

/-! ## The chains below a level -/

/-- The chains below a level, of at most some length. -/
def positions (g : Groups) (level : Nat) : Nat → List (List Nat)
  | 0 => []
  | fuel + 1 =>
    (g.entries level).zipIdx.map (fun e => [e.2]) ++
      (g.entries level).zipIdx.flatMap fun e => (g.positions e.1.2 fuel).map (e.2 :: ·)

theorem mem_positions_succ_iff {i : Nat} {is : List Nat} :
    i :: is ∈ g.positions level (fuel + 1) ↔ ∃ e, (g.entries level)[i]? = some e ∧
      (is = [] ∨ is ∈ g.positions e.2 fuel) := by
  simp only [positions, List.mem_append, List.mem_map, List.mem_flatMap, Prod.exists,
    List.mem_zipIdx_iff_getElem?, List.cons.injEq]
  constructor
  · rintro (⟨name, below, j, found, rfl, none⟩ | ⟨name, below, j, found, js, deeper, rfl, rfl⟩)
    · exact ⟨name, below, found, .inl none.symm⟩
    · exact ⟨name, below, found, .inr deeper⟩
  · rintro ⟨name, below, found, rfl | deeper⟩
    · exact .inl ⟨name, below, i, found, rfl, rfl⟩
    · exact .inr ⟨name, below, i, found, is, deeper, rfl, rfl⟩

theorem nil_notMem_positions (g : Groups) (level fuel : Nat) : [] ∉ g.positions level fuel := by
  cases fuel <;> simp [positions]

/-- Each chain is listed once. -/
theorem nodup_positions (g : Groups) (level fuel : Nat) : (g.positions level fuel).Nodup := by
  induction fuel generalizing level with
  | zero => exact List.nodup_nil
  | succ fuel ih =>
    have places : ((g.entries level).zipIdx.map (·.2)).Nodup := by
      rw [List.zipIdx_map_snd]
      exact List.nodup_range'
    have apart := List.pairwise_map.1 places
    rw [positions, List.nodup_append]
    refine ⟨?_, List.nodup_flatMap.2 ⟨fun e _ => ?_, apart.imp fun ne is hd he => ?_⟩, ?_⟩
    · exact List.pairwise_map.2 (apart.imp fun ne same => ne (List.cons.inj same).1)
    · exact (ih e.1.2).map (List.cons_injective)
    · obtain ⟨js, -, rfl⟩ := List.mem_map.1 hd
      obtain ⟨_, -, same⟩ := List.mem_map.1 he
      exact ne (List.cons.inj same).1.symm
    · rintro is hs js hj rfl
      obtain ⟨d, -, rfl⟩ := List.mem_map.1 hs
      obtain ⟨e, -, deeper⟩ := List.mem_flatMap.1 hj
      obtain ⟨_, inside, same⟩ := List.mem_map.1 deeper
      rw [(List.cons.inj same).2] at inside
      exact nil_notMem_positions _ _ _ inside

/-- A level below which the check finds no fault. -/
def Faultless (g : Groups) (path : List String) (around : List Nat) (level : Nat) : Prop :=
  level < g.levels.size →
    level ∉ around ∧ g.Checks path (level :: around) (g.entries level) []

theorem Faultless.below (h : g.Faultless path around level) {name : String} {below : Nat}
    (he : (name, below) ∈ g.entries level) :
    g.Faultless (path ++ [name]) (level :: around) below := by
  have inside : level < g.levels.size := by
    by_contra beyond
    rw [entries_of_le (Nat.le_of_not_lt beyond)] at he
    cases he
  exact ((h inside).2.of_mem he).2.2

/-- Where the check finds no fault, every chain is listed. -/
theorem mem_positions_iff (faultless : g.Faultless path around level) (trail : g.Trail around)
    (enough : g.levels.size < around.length + fuel) {is : List Nat} :
    is ∈ g.positions level fuel ↔ is ≠ [] ∧ ∃ x, g.follow? level is = some x := by
  induction fuel generalizing path around level is with
  | zero =>
    have := trail.length_le
    omega
  | succ fuel ih =>
    cases is with
    | nil => simp [nil_notMem_positions]
    | cons i is =>
      have go {name : String} {below : Nat} (found : (g.entries level)[i]? = some (name, below)) :
          (is = [] ∨ is ∈ g.positions below fuel) ↔ ∃ x, g.follow? below is = some x := by
        have inside : level < g.levels.size := by
          by_contra beyond
          rw [entries_of_le (Nat.le_of_not_lt beyond)] at found
          cases found
        rw [ih (faultless.below (List.mem_of_getElem? found))
          (trail.cons inside (faultless inside).1) (by rw [List.length_cons]; omega)]
        by_cases none : is = []
        · subst none
          simp [follow?_nil]
        · simp [none]
      rw [mem_positions_succ_iff, and_iff_right (List.cons_ne_nil i is)]
      constructor
      · rintro ⟨⟨name, below⟩, found, further⟩
        obtain ⟨⟨names, last⟩, further⟩ := (go found).1 further
        exact ⟨_, follow?_cons_eq_some_iff.2 ⟨name, below, names, found, further, rfl⟩⟩
      · rintro ⟨⟨names, last⟩, chain⟩
        obtain ⟨name, below, rest, found, further, -⟩ := follow?_cons_eq_some_iff.1 chain
        exact ⟨_, found, (go found).2 ⟨_, further⟩⟩

/-- What the traversal gives, key by key. -/
theorem map_walkFrom_succ (apart : level ∉ around) :
    (g.walkFrom path around level (fuel + 1)).map some =
      (g.entries level).zipIdx.map (fun e => some (path ++ [e.1.1], e.1.2)) ++
        (g.entries level).zipIdx.flatMap fun e =>
          (g.walkFrom (path ++ [e.1.1]) (level :: around) e.1.2 fuel).map some := by
  have visit := Pending.walk_succ g fuel ⟨path, level, around⟩
  have keys : g.entries level = (g.entries level).zipIdx.map Prod.fst :=
    (List.zipIdx_map_fst 0 _).symm
  rw [if_neg apart, Pending.groups, Pending.below, List.flatMap_map] at visit
  rw [Pending.walk] at visit
  rw [visit, List.map_append, List.map_map, List.map_flatMap]
  conv_lhs => rw [keys]
  rw [List.map_map, List.flatMap_map]
  rfl

/-- Where the check finds no fault, the traversal gives the chains in this order. -/
theorem map_walkFrom (faultless : g.Faultless path around level) :
    (g.walkFrom path around level fuel).map some = (g.positions level fuel).map fun is =>
      (g.follow? level is).map fun x => (path ++ x.1, x.2) := by
  induction fuel generalizing path around level with
  | zero => rfl
  | succ fuel ih =>
    by_cases inside : level < g.levels.size
    · have found : ∀ e ∈ (g.entries level).zipIdx, (g.entries level)[e.2]? = some e.1 :=
        fun e he => List.mem_zipIdx_iff_getElem?.1 he
      rw [map_walkFrom_succ (faultless inside).1, positions, List.map_append, List.map_map,
        List.map_flatMap]
      congr 1
      · refine List.map_congr_left fun e he => ?_
        simp [follow?, found e he]
      · refine List.flatMap_congr fun e he => ?_
        rw [ih (faultless.below (List.mem_of_getElem? (found e he))), List.map_map]
        refine List.map_congr_left fun is _ => ?_
        simp [follow?, found e he, Function.comp_def]
    · have none := entries_of_le (Nat.le_of_not_lt inside)
      simp [walkFrom, positions, none]

/-- Where the check finds no fault, the traversal gives every chain once. -/
theorem exists_chains (sound : g.faults = []) : ∃ chains : List (List Nat), chains.Nodup ∧
    (∀ is, is ∈ chains ↔ is ≠ [] ∧ ∃ x, g.follow? g.root is = some x) ∧
      g.walk.map some = chains.map (g.follow? g.root) := by
  have faultless : g.Faultless [] [] g.root :=
    fun _ => ⟨List.not_mem_nil, checks_root_iff.2 sound.symm⟩
  refine ⟨g.positions g.root (g.levels.size + 2), nodup_positions _ _ _, fun is => ?_, ?_⟩
  · refine mem_positions_iff faultless ⟨List.nodup_nil, by simp⟩ ?_
    rw [List.length_nil]
    omega
  · rw [walk, map_walkFrom faultless]
    refine List.map_congr_left fun is _ => ?_
    simp

end Groups

namespace ContainerConfig

/-- The check of a configuration reports no fault of its groups. -/
def GroupsAccepted (c : ContainerConfig) : Prop :=
  ∀ e, c.check = .error e → ∀ fault, ConfigFault.group fault ∉ e.faults

/-- No other rule is broken with a fault of groups. -/
theorem group_mem_faults_iff {c : ContainerConfig} {fault : GroupFault} :
    ConfigFault.group fault ∈ c.faults ↔ fault ∈ c.groups.faults := by
  simp [faults, sourceFaults, externalFaults]

theorem faults_of_check {c : ContainerConfig} {e : ConfigError} (h : c.check = .error e) :
    e.faults = c.faults := by
  unfold check at h
  split at h
  · cases h
  · obtain rfl := Except.error.inj h
    rfl

theorem check_of_mem {c : ContainerConfig} {fault : ConfigFault} (h : fault ∈ c.faults) :
    ∃ e, c.check = .error e := by
  unfold check
  split
  · next none =>
    rw [none] at h
    cases h
  · exact ⟨_, rfl⟩

theorem groupsAccepted_iff {c : ContainerConfig} :
    c.GroupsAccepted ↔ c.groups.faults = [] := by
  rw [List.eq_nil_iff_forall_not_mem]
  constructor
  · intro accepted fault listed
    obtain ⟨e, rejected⟩ := check_of_mem (group_mem_faults_iff.2 listed)
    refine accepted e rejected fault ?_
    rw [faults_of_check rejected]
    exact group_mem_faults_iff.2 listed
  · intro none e rejected fault listed
    rw [faults_of_check rejected] at listed
    exact none fault (group_mem_faults_iff.1 listed)

/-- **The groups of a container.** The check of the groups and their traversal end, the one with the
faults of the configuration and the other with its chains. No fault of the groups is reported if and
only if no level that can be reached contains itself, the names on each chain are distinct, and all
of them are well-formed; the traversal then gives every chain once, with the level it leads to. -/
theorem groups_traversed (c : ContainerConfig) :
    let g := c.groups
    (∀ fs, g.Checks [] [g.root] (g.entries g.root) fs ↔ fs = g.faults) ∧
      (∀ xs, g.Visits [⟨[], g.root, []⟩] xs ↔ xs = g.walk) ∧
      (c.GroupsAccepted ↔ g.WellFormed) ∧
      (c.GroupsAccepted → ∃ chains : List (List Nat), chains.Nodup ∧
        (∀ is, is ∈ chains ↔ is ≠ [] ∧ ∃ x, g.follow? g.root is = some x) ∧
          g.walk.map some = chains.map (g.follow? g.root)) := by
  intro g
  refine ⟨fun fs => Groups.checks_root_iff, fun xs => Groups.visits_root_iff, ?_,
    fun accepted => ?_⟩
  · rw [groupsAccepted_iff, Groups.faults_eq_nil_iff]
  · exact Groups.exists_chains (groupsAccepted_iff.1 accepted)

end ContainerConfig

end ArchModel
