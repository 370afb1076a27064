import ArchModel.Extraction.Scope
import ArchModel.Proofs.Except
import Mathlib.Data.List.Nodup

/-!
# The extracted components

* `GroupRules.Permits`: the rules for groups let a component be in its group. They do so for every
  component that is read off a class (`ClassInfo.permits_of_component`).
* `Program.exists_of_mem_extract`: an extracted component is read off a class.
* `Program.nodup_names_extract`: no two extracted components have one name.
-/

namespace ArchModel

open Text

/-- The rules for groups let a component be in its group, if it is in one. -/
def GroupRules.Permits (rules : GroupRules) (c : Component) : Prop :=
  ∀ group, c.group = some group → rules.check group = .ok ()

namespace ClassInfo

variable {c : ClassInfo} {rules : GroupRules} {component : Component} {earlier : List Component}

/-- A group that is read off a class is one that the rules let it be in. -/
theorem check_of_group {group : String} (h : c.group rules = .ok (some group)) :
    rules.check group = .ok () := by
  unfold ClassInfo.group at h
  split at h
  · cases h
  · obtain ⟨tag, -, h⟩ := bind_eq_ok.1 h
    split at h
    · cases h
    · obtain ⟨_, checked, h⟩ := bind_eq_ok.1 h
      obtain rfl := Option.some.inj (Except.ok.inj h)
      exact eq_ok_of_mapError checked

/-- The group of a component is the group of its class. -/
theorem group_of_component (h : c.component rules = .ok (some component)) :
    c.group rules = .ok component.group := by
  unfold ClassInfo.component at h
  split at h
  · cases h
  · obtain ⟨tag, -, h⟩ := bind_eq_ok.1 h
    dsimp only at h
    split at h
    · cases h
    · obtain ⟨_, read, h⟩ := bind_eq_ok.1 h
      obtain rfl := Option.some.inj (Except.ok.inj h)
      exact read

theorem permits_of_component (h : c.component rules = .ok (some component)) :
    rules.Permits component := by
  intro group named
  have read := group_of_component h
  rw [named] at read
  exact check_of_group read

/-- A component that a class gives is read off it, and its name is new. -/
theorem of_component?_outcome (h : (c.outcome rules earlier).component? = some component) :
    ∃ read, c.component rules = .ok (some read) ∧
      component =
        { read with relations := RelationTag.relations (c.relations read.name) } ∧
      ∀ e ∈ earlier, e.name ≠ component.name := by
  unfold ClassInfo.outcome at h
  split at h
  · cases h
  · cases h
  · next read found =>
    split at h
    · cases h
    · next new =>
      obtain rfl := Option.some.inj h
      exact ⟨read, found, rfl, by simpa using new⟩

end ClassInfo

namespace Program

variable {p : Program} {rules : GroupRules} {component : Component}

theorem mem_outcomesFrom {earlier : List Component} {cs : List ClassInfo}
    (h : component ∈ (outcomesFrom rules earlier cs).filterMap (·.component?)) :
    ∃ c ∈ cs, ∃ read, c.component rules = .ok (some read) ∧
      component = { read with relations := RelationTag.relations (c.relations read.name) } := by
  induction cs generalizing earlier with
  | nil => cases h
  | cons c cs ih =>
    rw [outcomesFrom, List.filterMap_cons] at h
    have later : component ∈ (outcomesFrom rules (earlier ++
        (c.outcome rules earlier).component?.toList) cs).filterMap (·.component?) →
        ∃ c' ∈ c :: cs, ∃ read, c'.component rules = .ok (some read) ∧
          component = { read with relations := RelationTag.relations (c'.relations read.name) } :=
      fun h => (ih h).imp fun _ hc => ⟨List.mem_cons_of_mem _ hc.1, hc.2⟩
    split at h
    · exact later h
    · next given =>
      rcases List.mem_cons.1 h with rfl | h
      · obtain ⟨read, found, same, -⟩ := ClassInfo.of_component?_outcome given
        exact ⟨c, List.mem_cons_self, read, found, same⟩
      · exact later h

/-- An extracted component is read off a class, and has the relations of its tags. -/
theorem exists_of_mem_extract (h : component ∈ (p.extract rules).components) :
    ∃ c ∈ p.allClasses, ∃ read, c.component rules = .ok (some read) ∧
      component = { read with relations := RelationTag.relations (c.relations read.name) } :=
  mem_outcomesFrom h

/-- The rules for groups let extracted components be in their groups. -/
theorem permits_of_mem_extract (h : component ∈ (p.extract rules).components) :
    rules.Permits component := by
  obtain ⟨c, -, read, found, rfl⟩ := exists_of_mem_extract h
  have permits : rules.Permits read := ClassInfo.permits_of_component found
  exact permits

theorem nodup_names_outcomesFrom {earlier : List Component} (cs : List ClassInfo)
    (distinct : (Component.names earlier).Nodup) :
    (Component.names (earlier ++
      (outcomesFrom rules earlier cs).filterMap (·.component?))).Nodup := by
  induction cs generalizing earlier with
  | nil => simpa [outcomesFrom] using distinct
  | cons c cs ih =>
    rw [outcomesFrom, List.filterMap_cons]
    cases given : (c.outcome rules earlier).component? with
    | none => simpa [given] using ih distinct
    | some component =>
      obtain ⟨-, -, -, new⟩ := ClassInfo.of_component?_outcome given
      have more : (Component.names (earlier ++ [component])).Nodup := by
        rw [Component.names, List.map_append, List.nodup_append]
        refine ⟨distinct, by simp, fun a ha b hb => ?_⟩
        obtain ⟨e, he, rfl⟩ := List.mem_map.1 ha
        obtain rfl : b = component.name := by simpa using hb
        exact new e he
      simpa [given] using ih more

/-- No two extracted components have one name. -/
theorem nodup_names_extract (p : Program) (rules : GroupRules) :
    (Component.names (p.extract rules).components).Nodup := by
  have start : (Component.names []).Nodup := by simp [Component.names]
  exact nodup_names_outcomesFrom p.allClasses start

end Program

end ArchModel
