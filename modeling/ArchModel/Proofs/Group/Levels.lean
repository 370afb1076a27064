import ArchModel.Group.Levels
import ArchModel.Proofs.Text.Cut

/-!
# The configured chains of names

* `Groups.mem_walkFrom_iff`: a chain of names leads to a level directly or by way of another one.
* `Groups.isGroupName_of_mem_walk`: where no fault is found, every name on a chain is well-formed,
  and its path has the characters of such names and slashes (`isGroupChar_of_mem_path`).
* `Groups.split_join_of_mem_walk`: such a chain can be read off its path.
-/

namespace ArchModel.Groups

open Text

variable {g : Groups} {path : List String} {around : List Nat} {level fuel : Nat}
  {x : List String × Nat}

/-! ## Chains -/

/-- A chain goes down one level, or goes on from there. -/
theorem mem_walkFrom_iff :
    x ∈ g.walkFrom path around level (fuel + 1) ↔ level ∉ around ∧ ∃ e ∈ g.entries level,
      x = (path ++ [e.1], e.2) ∨ x ∈ g.walkFrom (path ++ [e.1]) (level :: around) e.2 fuel := by
  rw [walkFrom]
  by_cases within : level ∈ around
  · simp [within]
  · simp only [List.contains_eq_mem, within, decide_false, Bool.false_eq_true, if_false,
      not_false_eq_true, true_and, List.mem_append, List.mem_map, List.mem_flatMap, Prod.exists]
    constructor
    · rintro (⟨name, below, he, rfl⟩ | ⟨_, _, ⟨name, below, he, same⟩, hx⟩)
      · exact ⟨name, below, he, .inl rfl⟩
      · obtain ⟨rfl, rfl⟩ := Prod.mk.inj same
        exact ⟨name, below, he, .inr hx⟩
    · rintro ⟨name, below, he, rfl | hx⟩
      · exact .inl ⟨name, below, he, rfl⟩
      · exact .inr ⟨_, _, ⟨name, below, he, rfl⟩, hx⟩

theorem exists_append_of_mem_walkFrom
    (h : x ∈ g.walkFrom path around level fuel) : ∃ names ≠ [], x.1 = path ++ names := by
  induction fuel generalizing path around level with
  | zero => simp [walkFrom] at h
  | succ fuel ih =>
    obtain ⟨-, e, -, rfl | below⟩ := mem_walkFrom_iff.1 h
    · exact ⟨[e.1], by simp, rfl⟩
    · obtain ⟨names, -, whole⟩ := ih below
      exact ⟨e.1 :: names, by simp, by rw [whole, List.append_assoc, List.singleton_append]⟩

theorem ne_nil_of_mem_walk (h : x ∈ g.walk) : x.1 ≠ [] := by
  obtain ⟨names, hne, whole⟩ := exists_append_of_mem_walkFrom h
  rwa [whole, List.nil_append]

theorem mem_paths_iff {p : String} : p ∈ g.paths ↔ ∃ x ∈ g.walk, join "/" x.1 = p :=
  List.mem_map

theorem mem_names_iff {name : String} :
    name ∈ g.names ↔ ∃ x ∈ g.walk, x.1.getLast? = some name :=
  List.mem_filterMap

/-! ## Names -/

/-- Names that are not well-formed would be found on the chains that they are on. -/
theorem isGroupName_of_mem_walkFrom
    (sound : g.faultsFrom path around level fuel = [])
    (h : x ∈ g.walkFrom path around level fuel) (before : ∀ name ∈ path, isGroupName name = true) :
    ∀ name ∈ x.1, isGroupName name = true := by
  induction fuel generalizing path around level with
  | zero => simp [walkFrom] at h
  | succ fuel ih =>
    obtain ⟨apart, e, he, last⟩ := mem_walkFrom_iff.1 h
    obtain ⟨name, below⟩ := e
    rw [faultsFrom, if_neg (by simpa using apart), List.flatMap_eq_nil_iff] at sound
    have here := sound _ he
    dsimp only at here
    split at here
    · cases here
    · obtain ⟨own, further⟩ := List.append_eq_nil_iff.1 here
      have named : isGroupName name = true := by
        by_contra bad
        simp [bad] at own
      have all : ∀ n ∈ path ++ [name], isGroupName n = true := by
        simpa [or_imp, forall_and] using ⟨before, named⟩
      rcases last with rfl | deeper
      · exact all
      · refine ih ?_ deeper all
        split at further
        · exact further
        · -- A number beyond the levels leads to no chain.
          next beyond =>
          have none : g.entries below = [] := by
            simp [entries, Array.getElem?_eq_none (Nat.le_of_not_lt beyond)]
          cases fuel with
          | zero => rfl
          | succ fuel =>
            obtain ⟨-, e, he, -⟩ := mem_walkFrom_iff.1 deeper
            simp [none] at he

theorem isGroupName_of_mem_walk (sound : g.faults = []) (h : x ∈ g.walk) :
    ∀ name ∈ x.1, isGroupName name = true :=
  isGroupName_of_mem_walkFrom sound h (by simp)

theorem isGroupChar_of_mem {name : String} (h : isGroupName name = true) {c : Char}
    (hc : c ∈ name.toList) : isGroupChar c = true ∨ c = '\n' := by
  simp only [isGroupName, Bool.and_eq_true, List.all_eq_true] at h
  by_cases last : name.toList.getLast? = some '\n'
  · rw [if_pos last] at h
    rw [← List.dropLast_append_getLast? _ last, List.mem_append, List.mem_singleton] at hc
    exact hc.imp_left (h.2 c)
  · rw [if_neg last] at h
    exact .inl (h.2 c hc)

theorem slash_notMem_of_isGroupName {name : String} (h : isGroupName name = true) :
    '/' ∉ name.toList := by
  intro slash
  rcases isGroupChar_of_mem h slash with char | feed
  · exact absurd char (by decide)
  · exact absurd feed (by decide)

/-- The characters of the path of well-formed names. -/
theorem isGroupChar_of_mem_path (sound : g.faults = []) (h : x ∈ g.walk) {c : Char}
    (hc : c ∈ (join "/" x.1).toList) : isGroupChar c = true ∨ c = '\n' ∨ c = '/' := by
  by_cases slash : c = '/'
  · exact .inr (.inr slash)
  · have inside : [c] <:+: (join "/" x.1).toList := by
      obtain ⟨a, b, whole⟩ := List.append_of_mem hc
      exact ⟨a, b, by rw [whole, List.append_assoc, List.singleton_append]⟩
    obtain ⟨name, hn, inside⟩ := infix_of_infix_join (by simp) (by decide)
      (by simpa using fun e => slash e.symm) inside
    have hc' : c ∈ name.toList := inside.subset (List.mem_singleton_self c)
    exact (isGroupChar_of_mem (isGroupName_of_mem_walk sound h name hn) hc').imp_right .inl

/-- A chain of well-formed names can be read off its path. -/
theorem split_join_of_mem_walk (sound : g.faults = []) (h : x ∈ g.walk) :
    split '/' (join "/" x.1) = x.1 := by
  have names := isGroupName_of_mem_walk sound h
  have parts : (x.1.map String.toList).map String.ofList = x.1 := by
    simp [Function.comp_def]
  rw [split, toList_join, show "/".toList = ['/'] from rfl, List.splitOn_intercalate, parts]
  · intro part hm slash
    obtain ⟨name, hn, rfl⟩ := List.mem_map.1 hm
    exact slash_notMem_of_isGroupName (names name hn) slash
  · simpa using ne_nil_of_mem_walk h

theorem path_ne_empty_of_mem_walk (sound : g.faults = []) (h : x ∈ g.walk) :
    join "/" x.1 ≠ "" := by
  intro empty
  have parts := split_join_of_mem_walk sound h
  rw [empty] at parts
  have blank : isGroupName "" = true :=
    isGroupName_of_mem_walk sound h "" (by rw [← parts]; decide)
  exact absurd blank (by decide)

end ArchModel.Groups
