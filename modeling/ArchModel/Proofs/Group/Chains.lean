import ArchModel.Config.Container
import Mathlib.Data.List.Nodup
import Mathlib.Data.List.Perm.Subperm

/-!
# The check of configured groups

A level of groups may be referred to from several places and from within itself, so the keys from
the top make up chains that need not end. A chain is given by the positions of its keys: keys of one
level may have the same name.

* `Groups.follow?`: the names of a chain and the level that it leads to.
* `Groups.WellFormed` is what a configuration of groups has to be.
* `Groups.Checks` are the runs of the check, which goes down every chain with the levels that it
  came by, and without a bound. Each run ends in the faults of the configuration
  (`checks_root_iff`).
* `Checks.follow`: where a run finds no fault, there is none on any chain.
* **`Groups.faults_eq_nil_iff`**: no fault is found if and only if the configuration is well-formed.
-/

namespace ArchModel.Groups

variable {g : Groups} {names : List String} {level last : Nat} {is js : List Nat}

/-! ## Chains -/

/-- The names on a chain of keys below a level, each key given by its position in its level, and the
level that the last one leads to. -/
def follow? (g : Groups) (level : Nat) : List Nat → Option (List String × Nat)
  | [] => some ([], level)
  | i :: is =>
    match (g.entries level)[i]? with
    | none => none
    | some (name, below) => (g.follow? below is).map fun x => (name :: x.1, x.2)

theorem follow?_nil (g : Groups) (level : Nat) : g.follow? level [] = some ([], level) := rfl

theorem follow?_cons_eq_some_iff {i : Nat} : g.follow? level (i :: is) = some (names, last) ↔
    ∃ name below rest, (g.entries level)[i]? = some (name, below) ∧
      g.follow? below is = some (rest, last) ∧ names = name :: rest := by
  rw [follow?]
  cases found : (g.entries level)[i]? with
  | none => simp
  | some e =>
    simp only [Option.map_eq_some_iff, Prod.exists, Prod.mk.injEq, Option.some.injEq]
    constructor
    · rintro ⟨rest, _, below, rfl, rfl⟩
      exact ⟨e.1, e.2, rest, rfl, below, rfl⟩
    · rintro ⟨_, _, rest, rfl, below, rfl⟩
      exact ⟨rest, last, below, rfl, rfl⟩

theorem follow?_append {middle : Nat} {names' : List String}
    (h : g.follow? level is = some (names, middle))
    (h' : g.follow? middle js = some (names', last)) :
    g.follow? level (is ++ js) = some (names ++ names', last) := by
  induction is generalizing level names with
  | nil =>
    obtain ⟨rfl, rfl⟩ := Prod.mk.inj (Option.some.inj h)
    exact h'
  | cons i is ih =>
    obtain ⟨name, below, rest, found, further, rfl⟩ := follow?_cons_eq_some_iff.1 h
    exact follow?_cons_eq_some_iff.2 ⟨name, below, _, found, ih further, rfl⟩

/-- Beyond the levels there are no keys. -/
theorem entries_of_le (h : g.levels.size ≤ level) : g.entries level = [] := by
  rw [entries, Array.getElem?_eq_none h]
  rfl

theorem lt_of_follow?_ne_nil (h : g.follow? level is = some (names, last)) (hne : is ≠ []) :
    level < g.levels.size := by
  by_contra beyond
  obtain ⟨i, is, rfl⟩ := List.exists_cons_of_ne_nil hne
  obtain ⟨name, below, rest, found, -⟩ := follow?_cons_eq_some_iff.1 h
  rw [entries_of_le (Nat.le_of_not_lt beyond)] at found
  cases found

/-- What a configuration of groups has to be: no level that can be reached contains itself, the
names on a chain are distinct, and each of them is well-formed. -/
structure WellFormed (g : Groups) : Prop where
  acyclic : ∀ is names level, g.follow? g.root is = some (names, level) →
    ∀ js names', js ≠ [] → g.follow? level js ≠ some (names', level)
  distinct : ∀ is names level, g.follow? g.root is = some (names, level) → names.Nodup
  named : ∀ is names level, g.follow? g.root is = some (names, level) →
    ∀ name ∈ names, isGroupName name = true

/-! ## Runs of the check -/

/-- The faults of a name. -/
def nameFaults (name : String) : List GroupFault :=
  if isGroupName name then [] else [.badName name]

/-- A run of the check over keys that `path` leads to through the levels `around`, and the faults
that it finds. -/
inductive Checks (g : Groups) :
    List String → List Nat → List (String × Nat) → List GroupFault → Prop
  | done {path around} : Checks g path around [] []
  /-- A name that is on the chain is a fault, and the check does not go down there. -/
  | repeated {path around name below es fs} (again : name ∈ path)
      (rest : Checks g path around es fs) :
      Checks g path around ((name, below) :: es) (.repeatedName (path ++ [name]) :: fs)
  /-- There are no subgroups. -/
  | leaf {path around name below es fs} (fresh : name ∉ path)
      (beyond : g.levels.size ≤ below) (rest : Checks g path around es fs) :
      Checks g path around ((name, below) :: es) (nameFaults name ++ fs)
  /-- The subgroups are a level that the chain came by. -/
  | cyclic {path around name below es fs} (fresh : name ∉ path)
      (inside : below < g.levels.size) (again : below ∈ around)
      (rest : Checks g path around es fs) :
      Checks g path around ((name, below) :: es)
        (nameFaults name ++ .selfContained (path ++ [name]) :: fs)
  /-- The check goes on with the subgroups. -/
  | deeper {path around name below es fs fs'} (fresh : name ∉ path)
      (inside : below < g.levels.size) (apart : below ∉ around)
      (inner : Checks g (path ++ [name]) (below :: around) (g.entries below) fs')
      (rest : Checks g path around es fs) :
      Checks g path around ((name, below) :: es) (nameFaults name ++ (fs' ++ fs))

variable {path : List String} {around : List Nat} {es : List (String × Nat)}
  {fs fs' : List GroupFault}

namespace Checks

/-- Two runs over the same keys find the same. -/
theorem unique (h : g.Checks path around es fs) (h' : g.Checks path around es fs') : fs = fs' := by
  induction h generalizing fs' with
  | done =>
    cases h'
    rfl
  | repeated again rest ih =>
    cases h' with
    | repeated _ rest' => rw [ih rest']
    | leaf fresh | cyclic fresh | deeper fresh => exact absurd again fresh
  | leaf fresh beyond rest ih =>
    cases h' with
    | repeated again => exact absurd again fresh
    | leaf _ _ rest' => rw [ih rest']
    | cyclic _ inside | deeper _ inside => exact absurd beyond (Nat.not_le_of_lt inside)
  | cyclic fresh inside again rest ih =>
    cases h' with
    | repeated again' => exact absurd again' fresh
    | leaf _ beyond => exact absurd beyond (Nat.not_le_of_lt inside)
    | cyclic _ _ _ rest' => rw [ih rest']
    | deeper _ _ apart => exact absurd again apart
  | deeper fresh inside apart inner rest ihInner ihRest =>
    cases h' with
    | repeated again => exact absurd again fresh
    | leaf _ beyond => exact absurd beyond (Nat.not_le_of_lt inside)
    | cyclic _ _ again => exact absurd again apart
    | deeper _ _ _ inner' rest' => rw [ihInner inner', ihRest rest']

end Checks

/-! ## The check ends -/

/-- The faults of a key, the check going down with some bound. -/
def keyFaults (g : Groups) (path : List String) (around : List Nat) (fuel : Nat)
    (e : String × Nat) : List GroupFault :=
  if path.contains e.1 then [.repeatedName (path ++ [e.1])]
  else nameFaults e.1 ++
    if e.2 < g.levels.size then g.faultsFrom (path ++ [e.1]) around e.2 fuel else []

theorem faultsFrom_succ (g : Groups) (path : List String) (around : List Nat) (level fuel : Nat) :
    g.faultsFrom path around level (fuel + 1) = if level ∈ around then [.selfContained path]
      else (g.entries level).flatMap (g.keyFaults path (level :: around) fuel) := by
  by_cases within : level ∈ around
  · rw [faultsFrom, if_pos (by simpa using within), if_pos within]
  · rw [faultsFrom, if_neg (by simpa using within), if_neg within]
    rfl

/-- Levels that a chain came by: they are distinct, and there are keys below each of them. -/
structure Trail (g : Groups) (around : List Nat) : Prop where
  distinct : around.Nodup
  inside : ∀ level ∈ around, level < g.levels.size

theorem Trail.length_le (h : g.Trail around) : around.length ≤ g.levels.size := by
  have sub : around ⊆ List.range g.levels.size := fun level hl =>
    List.mem_range.2 (h.inside level hl)
  simpa using (h.distinct.subperm sub).length_le

theorem Trail.cons (h : g.Trail around) (inside : level < g.levels.size) (apart : level ∉ around) :
    g.Trail (level :: around) :=
  ⟨List.nodup_cons.2 ⟨apart, h.distinct⟩, List.forall_mem_cons.2 ⟨inside, h.inside⟩⟩

theorem trail_singleton (inside : level < g.levels.size) : g.Trail [level] :=
  ⟨List.nodup_singleton level, by simpa using inside⟩

/-- A bound on how many more levels a chain can come by is enough for the check. -/
theorem checks_flatMap {fuel : Nat} (trail : g.Trail around)
    (enough : g.levels.size < around.length + fuel) (path : List String)
    (es : List (String × Nat)) :
    g.Checks path around es (es.flatMap (g.keyFaults path around fuel)) := by
  induction fuel generalizing path around es with
  | zero =>
    have := trail.length_le
    omega
  | succ fuel ihFuel =>
    induction es with
    | nil => exact .done
    | cons e es ih =>
      obtain ⟨name, below⟩ := e
      rw [List.flatMap_cons, keyFaults]
      by_cases again : name ∈ path
      · rw [if_pos (by simpa using again)]
        exact .repeated again ih
      · rw [if_neg (by simpa using again)]
        by_cases inside : below < g.levels.size
        · rw [if_pos inside, faultsFrom_succ, List.append_assoc]
          by_cases within : below ∈ around
          · rw [if_pos within]
            exact .cyclic again inside within ih
          · rw [if_neg within]
            have more : g.levels.size < (below :: around).length + fuel := by
              rw [List.length_cons]
              omega
            exact .deeper again inside within
              (ihFuel (trail.cons inside within) more _ _) ih
        · rw [if_neg inside, List.append_nil]
          exact .leaf again (Nat.le_of_not_lt inside) ih

/-- The check ends, and with the faults of the configuration only. -/
theorem checks_root_iff : g.Checks [] [g.root] (g.entries g.root) fs ↔ fs = g.faults := by
  have run : g.Checks [] [g.root] (g.entries g.root) g.faults := by
    rw [faults, faultsFrom_succ, if_neg List.not_mem_nil]
    by_cases inside : g.root < g.levels.size
    · refine checks_flatMap (trail_singleton inside) ?_ [] _
      rw [List.length_singleton]
      omega
    · rw [entries_of_le (Nat.le_of_not_lt inside)]
      exact .done
  exact ⟨fun h => h.unique run, fun h => h ▸ run⟩

/-! ## Faults and chains -/

/-- Where a run finds no fault, there is none at a key and below it. -/
theorem Checks.of_mem (h : g.Checks path around es []) {name : String} {below : Nat}
    (he : (name, below) ∈ es) : name ∉ path ∧ isGroupName name = true ∧
      (below < g.levels.size → below ∉ around ∧
        g.Checks (path ++ [name]) (below :: around) (g.entries below) []) := by
  have wellFormed {name : String} (none : nameFaults name = []) : isGroupName name = true := by
    by_contra bad
    simp [nameFaults, bad] at none
  obtain ⟨fs, none⟩ : ∃ fs : List GroupFault, fs = [] := ⟨_, rfl⟩
  rw [← none] at h
  induction h with
  | done => cases he
  | repeated => cases none
  | @leaf path around name' below' es fs fresh beyond rest ih =>
    obtain ⟨own, others⟩ := List.append_eq_nil_iff.1 none
    rcases List.mem_cons.1 he with same | he
    · obtain ⟨rfl, rfl⟩ := Prod.mk.inj same
      exact ⟨fresh, wellFormed own, fun inside => absurd beyond (Nat.not_le_of_lt inside)⟩
    · exact ih he others
  | cyclic => simp at none
  | @deeper path around name' below' es fs fs' fresh inside apart inner rest ihInner ih =>
    obtain ⟨own, others⟩ := List.append_eq_nil_iff.1 none
    obtain ⟨deep, others⟩ := List.append_eq_nil_iff.1 others
    rcases List.mem_cons.1 he with same | he
    · obtain ⟨rfl, rfl⟩ := Prod.mk.inj same
      exact ⟨fresh, wellFormed own, fun _ => ⟨apart, deep ▸ inner⟩⟩
    · exact ih he others

/-- Where a run finds no fault below a level, the names on a chain from there are distinct and
well-formed, and the chain does not lead back to a level that it came by. -/
theorem Checks.follow (h : g.Checks path around (g.entries level) []) (here : level ∈ around)
    (distinct : path.Nodup) (chain : g.follow? level is = some (names, last)) :
    (path ++ names).Nodup ∧ (∀ name ∈ names, isGroupName name = true) ∧
      (last < g.levels.size → (is ≠ [] → last ∉ around) ∧
        ∃ around', last ∈ around' ∧ g.Checks (path ++ names) around' (g.entries last) []) := by
  induction is generalizing path around level names with
  | nil =>
    obtain ⟨rfl, rfl⟩ := Prod.mk.inj (Option.some.inj chain)
    rw [List.append_nil]
    exact ⟨distinct, by simp, fun _ => ⟨fun hne => absurd rfl hne, around, here, h⟩⟩
  | cons i is ih =>
    obtain ⟨name, below, rest, found, further, rfl⟩ := follow?_cons_eq_some_iff.1 chain
    obtain ⟨fresh, named, deep⟩ := h.of_mem (List.mem_of_getElem? found)
    have longer : (path ++ [name]).Nodup := by
      rw [← List.concat_eq_append]
      exact distinct.concat fresh
    by_cases inside : below < g.levels.size
    · obtain ⟨apart, inner⟩ := deep inside
      obtain ⟨distinct', named', back⟩ := ih inner List.mem_cons_self longer further
      rw [List.append_assoc, List.singleton_append] at distinct' back
      refine ⟨distinct', List.forall_mem_cons.2 ⟨named, named'⟩, fun lastInside => ?_⟩
      obtain ⟨away, around', at_last, run⟩ := back lastInside
      refine ⟨fun _ => ?_, around', at_last, run⟩
      cases is with
      | nil =>
        obtain ⟨-, rfl⟩ := Prod.mk.inj (Option.some.inj further)
        exact apart
      | cons j is => exact fun hl => away (List.cons_ne_nil j is) (List.mem_cons_of_mem _ hl)
    · have none : is = [] := by
        by_contra hne
        exact inside (lt_of_follow?_ne_nil further hne)
      subst none
      obtain ⟨rfl, rfl⟩ := Prod.mk.inj (Option.some.inj further)
      exact ⟨longer, by simpa using named, fun lastInside => absurd lastInside inside⟩

theorem wellFormed_of_checks (h : g.Checks [] [g.root] (g.entries g.root) []) : g.WellFormed := by
  have start {is names level} (chain : g.follow? g.root is = some (names, level)) :=
    h.follow (List.mem_singleton_self _) List.nodup_nil chain
  refine ⟨?_, fun is names level chain => (start chain).1, fun is names level chain =>
    (start chain).2.1⟩
  intro is names level chain js names' hne back
  have inside : level < g.levels.size := lt_of_follow?_ne_nil back hne
  obtain ⟨distinct, -, deep⟩ := start chain
  obtain ⟨-, around, here, run⟩ := deep inside
  exact ((run.follow here distinct back).2.2 inside).1 hne here

/-- A level that the chain came by: it is reached from the top and leads to where the chain is. -/
def CameBy (g : Groups) (level l : Nat) : Prop :=
  ∃ is names js names', g.follow? g.root is = some (names, l) ∧
    g.follow? l js = some (names', level)

/-- In a well-formed configuration a run that goes on from a chain from the top finds no fault. -/
theorem Checks.eq_nil (wf : g.WellFormed) (h : g.Checks path around es fs)
    (chain : g.follow? g.root is = some (path, level)) (own : es ⊆ g.entries level)
    (back : ∀ l ∈ around, g.CameBy level l) : fs = [] := by
  -- A key further down, the chain is one of the configuration as well.
  have onward {level below : Nat} {name : String} (he : (name, below) ∈ g.entries level) :
      ∃ i, g.follow? level [i] = some ([name], below) := by
    obtain ⟨i, found⟩ := List.mem_iff_getElem?.1 he
    exact ⟨i, follow?_cons_eq_some_iff.2 ⟨name, below, [], found, rfl, rfl⟩⟩
  have unnamed {is : List Nat} {path : List String} {name : String} {below : Nat}
      (chain : g.follow? g.root is = some (path ++ [name], below)) : nameFaults name = [] := by
    rw [nameFaults, if_pos (wf.named _ _ _ chain name (by simp))]
  induction h generalizing is level with
  | done => rfl
  | @repeated path around name below es fs again rest ih =>
    obtain ⟨i, next⟩ := onward (own List.mem_cons_self)
    have distinct := wf.distinct _ _ _ (follow?_append chain next)
    obtain ⟨-, -, apart⟩ := List.nodup_append.1 distinct
    exact absurd rfl (apart name again name (List.mem_singleton_self _))
  | @leaf path around name below es fs fresh beyond rest ih =>
    obtain ⟨i, next⟩ := onward (own List.mem_cons_self)
    rw [unnamed (follow?_append chain next), ih chain (List.subset_of_cons_subset own) back]
    rfl
  | @cyclic path around name below es fs fresh inside again rest ih =>
    obtain ⟨i, next⟩ := onward (own List.mem_cons_self)
    obtain ⟨is', names, js, names', reached, further⟩ := back below again
    exact absurd (follow?_append further next) (wf.acyclic _ _ _ reached _ _ (by simp))
  | @deeper path around name below es fs fs' fresh inside apart inner rest ihInner ih =>
    obtain ⟨i, next⟩ := onward (own List.mem_cons_self)
    have longer := follow?_append chain next
    have back' : ∀ l ∈ below :: around, g.CameBy below l := by
      refine List.forall_mem_cons.2 ⟨⟨_, _, [], [], longer, rfl⟩, fun l hl => ?_⟩
      obtain ⟨is', names, js, names', reached, further⟩ := back l hl
      exact ⟨is', names, _, _, reached, follow?_append further next⟩
    rw [unnamed longer, ihInner longer (List.Subset.refl _) back',
      ih chain (List.subset_of_cons_subset own) back]
    rfl

/-- **The check of groups** finds no fault if and only if the configuration is well-formed. -/
theorem faults_eq_nil_iff : g.faults = [] ↔ g.WellFormed := by
  have run : g.Checks [] [g.root] (g.entries g.root) g.faults := checks_root_iff.2 rfl
  constructor
  · intro none
    rw [none] at run
    exact wellFormed_of_checks run
  · intro wf
    refine run.eq_nil wf (follow?_nil g g.root) (List.Subset.refl _) fun l hl => ?_
    obtain rfl := List.mem_singleton.1 hl
    exact ⟨[], [], [], [], rfl, rfl⟩

end ArchModel.Groups
