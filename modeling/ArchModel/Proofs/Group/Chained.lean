import ArchModel.Proofs.Group.Tree
import Mathlib.Data.List.Find

/-!
# Groups and their chains of names

A group of a tree is known by the chain of names that leads to it, provided that groups side by side
have different names.

* `GroupNode.placedIn` lists the groups of a tree with their chains, in the order of
  `GroupNode.allIn`.
* `Apart` says that groups side by side have different names. Then each group is the one at the end
  of its chain (`Apart.mem_placedIn_iff`), no two have one chain (`Apart.nodup_chains`), and a
  change at the end of a chain keeps this (`Apart.updateAt`).
* `isSome_at?_updateAt` says at the end of which chains there is a group after a change,
  `componentsAt_updateAt` which components are there.
* `Apart.exists_updateAt`: to change the first group of a name is to change the group at the end of
  its chain.
-/

namespace ArchModel.GroupNode

open Text

/-! ## Chains -/

mutual

/-- A group and the groups below it with their chains, which start with `above`. -/
def placed (above : List String) : GroupNode → List (List String × GroupNode)
  | node n p cs gs => (above ++ [n], node n p cs gs) :: placedIn (above ++ [n]) gs

/-- The groups of a tree with their chains, which start with `above`, each before those below it. -/
def placedIn (above : List String) : List GroupNode → List (List String × GroupNode)
  | [] => []
  | g :: gs => placed above g ++ placedIn above gs

end

variable {above chain : List String} {gs : List GroupNode} {g : GroupNode}

theorem placed_eq (above : List String) (g : GroupNode) :
    placed above g = (above ++ [g.name], g) :: placedIn (above ++ [g.name]) g.subgroups := by
  cases g
  rfl

theorem placedIn_cons (above : List String) (g : GroupNode) (gs : List GroupNode) :
    placedIn above (g :: gs) = (above ++ [g.name], g) ::
      (placedIn (above ++ [g.name]) g.subgroups ++ placedIn above gs) := by
  rw [placedIn, placed_eq, List.cons_append]

mutual

theorem map_snd_placed (above : List String) (g : GroupNode) :
    (placed above g).map (·.2) = all g := by
  obtain ⟨n, p, cs, gs⟩ := g
  rw [placed, all, List.map_cons, map_snd_placedIn (above ++ [n]) gs]

/-- No group is left out. -/
theorem map_snd_placedIn (above : List String) (gs : List GroupNode) :
    (placedIn above gs).map (·.2) = allIn gs := by
  cases gs with
  | nil => rfl
  | cons g gs =>
    rw [placedIn, allIn, List.map_append, map_snd_placed above g, map_snd_placedIn above gs]

end

theorem mem_placedIn_iff {x : List String × GroupNode} : x ∈ placedIn above gs ↔
    ∃ g ∈ gs, x = (above ++ [g.name], g) ∨ x ∈ placedIn (above ++ [g.name]) g.subgroups := by
  induction gs with
  | nil => simp [placedIn]
  | cons g gs ih => simp [placedIn_cons, ih, or_assoc]

mutual

theorem exists_append_of_mem_placed {above : List String} {x : List String × GroupNode}
    (g : GroupNode) (h : x ∈ placed above g) : ∃ rest, x.1 = above ++ g.name :: rest := by
  obtain ⟨n, p, cs, gs⟩ := g
  rw [placed] at h
  rcases List.mem_cons.1 h with rfl | below
  · exact ⟨[], rfl⟩
  · obtain ⟨n', rest, -, whole⟩ := exists_append_of_mem_placedIn gs below
    exact ⟨n' :: rest, by rw [whole, List.append_assoc]; rfl⟩

/-- Below a chain there are longer ones. -/
theorem exists_append_of_mem_placedIn {above : List String} {x : List String × GroupNode}
    (gs : List GroupNode) (h : x ∈ placedIn above gs) :
    ∃ n rest, n ∈ gs.map name ∧ x.1 = above ++ n :: rest := by
  cases gs with
  | nil => cases h
  | cons g gs =>
    rw [placedIn] at h
    rcases List.mem_append.1 h with first | others
    · obtain ⟨rest, whole⟩ := exists_append_of_mem_placed g first
      exact ⟨g.name, rest, List.mem_cons_self, whole⟩
    · obtain ⟨n, rest, listed, whole⟩ := exists_append_of_mem_placedIn gs others
      exact ⟨n, rest, List.mem_cons_of_mem _ listed, whole⟩

end

/-! ## Groups side by side -/

/-- Groups side by side have different names, at the top and below each group. -/
def Apart (gs : List GroupNode) : Prop :=
  (gs.map name).Nodup ∧ ∀ g ∈ allIn gs, (g.subgroups.map name).Nodup

theorem apart_nil : Apart [] := ⟨List.nodup_nil, by simp [allIn]⟩

theorem apart_cons :
    Apart (g :: gs) ↔ g.name ∉ gs.map name ∧ Apart g.subgroups ∧ Apart gs := by
  simp only [Apart, allIn, all_eq, List.map_cons, List.nodup_cons, List.cons_append,
    List.forall_mem_cons, List.forall_mem_append]
  tauto

theorem Apart.subgroups (h : Apart gs) (hg : g ∈ gs) : Apart g.subgroups := by
  induction gs with
  | nil => cases hg
  | cons first gs ih =>
    obtain ⟨-, below, others⟩ := apart_cons.1 h
    rcases List.mem_cons.1 hg with rfl | hg
    · exact below
    · exact ih others hg

/-- A group is the only one of its name among those beside it. -/
theorem Apart.find?_iff (h : Apart gs) {n : String} :
    gs.find? (·.name == n) = some g ↔ g ∈ gs ∧ g.name = n := by
  constructor
  · intro found
    exact ⟨List.mem_of_find?_eq_some found, by simpa using List.find?_some found⟩
  · rintro ⟨listed, rfl⟩
    obtain ⟨before, after, rfl⟩ := List.append_of_mem listed
    have distinct := h.1
    rw [List.map_append, List.map_cons, List.nodup_append] at distinct
    have earlier : ∀ g' ∈ before, ¬(g'.name == g.name) = true := by
      intro g' hg' same
      exact distinct.2.2 g'.name (List.mem_map_of_mem hg') g.name List.mem_cons_self
        (by simpa using same)
    rw [List.find?_append, List.find?_eq_none.2 earlier, Option.none_or, List.find?_cons_of_pos]
    exact beq_self_eq_true _

/-- The groups below the first one of a name. -/
def under (n : String) (gs : List GroupNode) : List GroupNode :=
  ((gs.find? (·.name == n)).map GroupNode.subgroups).getD []

theorem at?_singleton (n : String) (gs : List GroupNode) :
    at? [n] gs = gs.find? (·.name == n) := by
  simp [at?]

theorem at?_cons {n : String} {rest : List String} (hne : rest ≠ []) :
    at? (n :: rest) gs = at? rest (under n gs) := by
  rw [at?, under]
  cases gs.find? (·.name == n) with
  | none => cases rest <;> rfl
  | some g => simp [hne]

/-- Each group is the one at the end of its chain. -/
theorem Apart.mem_placedIn_iff (h : Apart gs) :
    (above ++ chain, g) ∈ placedIn above gs ↔ at? chain gs = some g := by
  induction chain generalizing above gs with
  | nil =>
    refine iff_of_false (fun listed => ?_) (by simp [at?])
    obtain ⟨n, rest, -, whole⟩ := exists_append_of_mem_placedIn gs listed
    simp at whole
  | cons n rest ih =>
    rw [GroupNode.mem_placedIn_iff, at?, Option.bind_eq_some_iff]
    constructor
    · rintro ⟨first, listed, last | deeper⟩
      · obtain ⟨same, rfl⟩ := Prod.mk.inj last
        obtain ⟨rfl, rfl⟩ : n = g.name ∧ rest = [] := by simpa using same
        exact ⟨g, h.find?_iff.2 ⟨listed, rfl⟩, rfl⟩
      · obtain ⟨n', rest', -, whole⟩ := exists_append_of_mem_placedIn _ deeper
        obtain ⟨rfl, rfl⟩ : n = first.name ∧ rest = n' :: rest' := by simpa using whole
        refine ⟨first, h.find?_iff.2 ⟨listed, rfl⟩, ?_⟩
        have deeper : (above ++ [first.name] ++ n' :: rest', g) ∈
            placedIn (above ++ [first.name]) first.subgroups := by simpa using deeper
        exact (ih (h.subgroups listed)).1 deeper
    · rintro ⟨first, found, last⟩
      obtain ⟨listed, rfl⟩ := h.find?_iff.1 found
      refine ⟨first, listed, ?_⟩
      split at last
      · next none =>
        obtain rfl := Option.some.inj last
        rw [List.isEmpty_iff.1 none]
        exact .inl rfl
      · rw [List.append_cons]
        exact .inr ((ih (h.subgroups listed)).2 last)

mutual

theorem nodup_placed (above : List String) (g : GroupNode) (h : Apart g.subgroups) :
    ((placed above g).map (·.1)).Nodup := by
  obtain ⟨n, p, cs, gs⟩ := g
  rw [placed, List.map_cons, List.nodup_cons]
  refine ⟨fun again => ?_, nodup_placedIn (above ++ [n]) gs h⟩
  obtain ⟨x, below, same⟩ := List.mem_map.1 again
  obtain ⟨n', rest, -, whole⟩ := exists_append_of_mem_placedIn gs below
  simp [whole] at same

/-- No two groups have one chain. -/
theorem nodup_placedIn (above : List String) (gs : List GroupNode) (h : Apart gs) :
    ((placedIn above gs).map (·.1)).Nodup := by
  cases gs with
  | nil => exact List.nodup_nil
  | cons g gs =>
    obtain ⟨new, below, others⟩ := apart_cons.1 h
    rw [placedIn, List.map_append, List.nodup_append]
    refine ⟨nodup_placed above g below, nodup_placedIn above gs others, ?_⟩
    intro chain inFirst chain' inOthers same
    obtain ⟨x, hx, rfl⟩ := List.mem_map.1 inFirst
    obtain ⟨y, hy, rfl⟩ := List.mem_map.1 inOthers
    obtain ⟨rest, wholeX⟩ := exists_append_of_mem_placed g hx
    obtain ⟨n, rest', listed, wholeY⟩ := exists_append_of_mem_placedIn gs hy
    rw [wholeX, wholeY, List.append_cancel_left_eq] at same
    exact new ((List.cons.inj same).1 ▸ listed)

end

/-! ## Changes -/

section change

variable {f : GroupNode → GroupNode} {added : List String} (hf : Adds f added)

theorem mem_map_name_updateNamed {n path : String} (keeps : ∀ g, (f g).name = g.name)
    (gs : List GroupNode) {m : String} :
    m ∈ (updateNamed n path f gs).map name ↔ m ∈ gs.map name ∨ m = n := by
  induction gs with
  | nil =>
    have fresh : (f (node n path [] [])).name = n := keeps _
    rw [updateNamed, List.map_singleton, fresh]
    simp
  | cons g gs ih =>
    rw [updateNamed]
    split
    · next same =>
      rw [List.map_cons, keeps, List.map_cons, List.mem_cons]
      exact (or_iff_left_of_imp fun e => .inl (e.trans same.symm)).symm
    · rw [List.map_cons, List.map_cons, List.mem_cons, List.mem_cons, ih, or_assoc]

theorem Apart.updateNamed {n path : String} (keeps : ∀ g, (f g).name = g.name) (h : Apart gs)
    (deeper : ∀ g, g ∈ gs ∨ g = node n path [] [] → Apart (f g).subgroups) :
    Apart (updateNamed n path f gs) := by
  induction gs with
  | nil => exact apart_cons.2 ⟨by simp, deeper _ (.inr rfl), apart_nil⟩
  | cons g gs ih =>
    obtain ⟨new, below, others⟩ := apart_cons.1 h
    rw [GroupNode.updateNamed]
    split
    · exact apart_cons.2 ⟨by rwa [keeps], deeper g (.inl List.mem_cons_self), others⟩
    · next other =>
      refine apart_cons.2 ⟨?_, below, ih others fun g hg => deeper g ?_⟩
      · rw [mem_map_name_updateNamed keeps]
        exact not_or.2 ⟨new, other⟩
      · exact hg.imp_left (List.mem_cons_of_mem _)

include hf

/-- Groups side by side keep different names. -/
theorem Apart.updateAt (h : Apart gs) : Apart (updateAt f above chain gs) := by
  fun_induction GroupNode.updateAt f above chain gs with
  | case1 => exact h
  | case2 above n gs =>
    refine h.updateNamed hf.name_eq fun g hg => ?_
    rw [hf.subgroups_eq]
    rcases hg with listed | rfl
    · exact h.subgroups listed
    · exact apart_nil
  | case3 above n rest gs more ih =>
    refine h.updateNamed (by simp) fun g hg => ?_
    rw [subgroups_withSubgroups]
    rcases hg with listed | rfl
    · exact ih g (h.subgroups listed)
    · exact ih _ apart_nil

/-- A change of an outermost group leaves the groups below it. -/
theorem under_updateAt_singleton (n m : String) :
    under m (GroupNode.updateAt f above [n] gs) = under m gs := by
  rw [GroupNode.updateAt, under, find?_updateNamed hf.name_eq]
  split
  · next same =>
    subst same
    rw [Option.map_some, Option.getD_some, hf.subgroups_eq, under]
    cases gs.find? (·.name == m) <;> rfl
  · rfl

omit hf in
/-- A change further down is one of the groups below the first group on the way. -/
theorem under_updateAt_cons {rest : List String} (hne : rest ≠ []) (n m : String) :
    under m (GroupNode.updateAt f above (n :: rest) gs) =
      if m = n then GroupNode.updateAt f (above ++ [n]) rest (under n gs) else under m gs := by
  have keeps (g : GroupNode) : (g.withSubgroups
      (GroupNode.updateAt f (above ++ [n]) rest g.subgroups)).name = g.name := by simp
  rw [GroupNode.updateAt, under, find?_updateNamed keeps]
  · split
    · rw [Option.map_some, Option.getD_some, subgroups_withSubgroups, under]
      cases gs.find? (·.name == n) <;> rfl
    · rfl
  · exact hne

omit hf in
theorem isSome_at?_singleton {n : String} : (at? [n] gs).isSome ↔ n ∈ gs.map name := by
  rw [at?_singleton, List.find?_isSome]
  simp

theorem mem_map_name_updateAt {n m : String} {rest : List String} :
    m ∈ (GroupNode.updateAt f above (n :: rest) gs).map name ↔ m ∈ gs.map name ∨ m = n := by
  cases rest with
  | nil => exact mem_map_name_updateNamed hf.name_eq gs
  | cons next rest => exact mem_map_name_updateNamed (by simp) gs

/-- There is a group at the end of a chain after a change if there was one before or the change came
by. -/
theorem isSome_at?_updateAt {other : List String} :
    (at? other (GroupNode.updateAt f above chain gs)).isSome ↔
      (at? other gs).isSome ∨ other ≠ [] ∧ other <+: chain := by
  induction chain generalizing above gs other with
  | nil =>
    rw [GroupNode.updateAt, List.prefix_nil]
    exact (or_iff_left fun h => h.1 h.2).symm
  | cons n rest ih =>
    cases other with
    | nil => simp [at?]
    | cons m more =>
      rw [List.cons_prefix_cons, and_iff_right (List.cons_ne_nil m more)]
      by_cases last : more = []
      · subst last
        rw [isSome_at?_singleton, isSome_at?_singleton, mem_map_name_updateAt hf,
          and_iff_left List.nil_prefix]
      · rw [at?_cons last, at?_cons last]
        by_cases top : rest = []
        · subst top
          rw [under_updateAt_singleton hf, List.prefix_nil]
          exact (or_iff_left fun h => last h.2).symm
        · rw [under_updateAt_cons top]
          split
          · next same =>
            rw [ih, same, and_iff_right last, and_iff_right rfl]
          · next other => exact (or_iff_left fun h => other h.1).symm

omit hf

/-- The components of the group at the end of a chain, if there is one. -/
def componentsAt (gs : List GroupNode) (chain : List String) : List String :=
  ((at? chain gs).map components).getD []

theorem componentsAt_cons {n : String} {rest : List String} (hne : rest ≠ []) :
    componentsAt gs (n :: rest) = componentsAt (under n gs) rest := by
  rw [componentsAt, at?_cons hne, componentsAt]

include hf

/-- The components are added to the group at the end of the chain and to no other one. -/
theorem componentsAt_updateAt (hne : chain ≠ []) (other : List String) :
    componentsAt (GroupNode.updateAt f above chain gs) other =
      componentsAt gs other ++ if other = chain then added else [] := by
  induction chain generalizing above gs other with
  | nil => exact absurd rfl hne
  | cons n rest ih =>
    cases other with
    | nil => simp [componentsAt, at?]
    | cons m more =>
      by_cases last : more = []
      · subst last
        rw [componentsAt, at?_singleton, componentsAt, at?_singleton]
        cases rest with
        | nil =>
          rw [GroupNode.updateAt, find?_updateNamed hf.name_eq]
          by_cases same : m = n
          · subst same
            rw [if_pos rfl, if_pos rfl, Option.map_some, Option.getD_some, hf.components_eq]
            cases gs.find? (·.name == m) <;> rfl
          · rw [if_neg same, if_neg (by simpa using same), List.append_nil]
        | cons next rest =>
          have shorter : [m] ≠ n :: next :: rest := by simp
          rw [if_neg shorter, List.append_nil, GroupNode.updateAt, find?_updateNamed (by simp)]
          · by_cases same : m = n
            · subst same
              rw [if_pos rfl, Option.map_some, Option.getD_some, components_withSubgroups]
              cases gs.find? (·.name == m) <;> rfl
            · rw [if_neg same]
          · exact List.cons_ne_nil next rest
      · rw [componentsAt_cons last, componentsAt_cons last]
        by_cases top : rest = []
        · subst top
          rw [under_updateAt_singleton hf, if_neg (by simp [last]), List.append_nil]
        · rw [under_updateAt_cons top]
          by_cases same : m = n
          · rw [if_pos same, ih top, same]
            simp
          · rw [if_neg same, if_neg (by simp [same]), List.append_nil]

omit hf in
theorem chains_updateNamed {n path : String} (there : gs.find? (·.name == n) = some g)
    (same : (placed above (f g)).map (·.1) = (placed above g).map (·.1)) :
    (placedIn above (updateNamed n path f gs)).map (·.1) = (placedIn above gs).map (·.1) := by
  induction gs with
  | nil => cases there
  | cons first gs ih =>
    rw [updateNamed]
    by_cases named : first.name = n
    · rw [List.find?_cons_of_pos (by simpa using named)] at there
      obtain rfl := Option.some.inj there
      rw [if_pos named, placedIn, placedIn, List.map_append, List.map_append, same]
    · rw [List.find?_cons_of_neg (by simpa using named)] at there
      rw [if_neg named, placedIn, placedIn, List.map_append, List.map_append, ih there]

/-- Where there is a group at the end of the chain, a change there makes no group. -/
theorem chains_updateAt (there : (at? chain gs).isSome) :
    (placedIn above (GroupNode.updateAt f above chain gs)).map (·.1) =
      (placedIn above gs).map (·.1) := by
  induction chain generalizing above gs with
  | nil => rfl
  | cons n rest ih =>
    rw [at?, Option.isSome_bind, Option.any_eq_true] at there
    obtain ⟨g, found, further⟩ := there
    obtain ⟨rfl, -⟩ := mem_allIn_of_find? found
    cases rest with
    | nil =>
      refine chains_updateNamed found ?_
      rw [placed_eq, placed_eq, hf.name_eq, hf.subgroups_eq, List.map_cons, List.map_cons]
    | cons next rest =>
      refine chains_updateNamed found ?_
      rw [placed_eq, placed_eq, name_withSubgroups, subgroups_withSubgroups, List.map_cons,
        List.map_cons, ih further]

/-- Where no group beside the others has the name, a change makes one behind them. -/
theorem chains_updateAt_fresh {n : String} (fresh : n ∉ gs.map name) :
    (placedIn above (GroupNode.updateAt f above [n] gs)).map (·.1) =
      (placedIn above gs).map (·.1) ++ [above ++ [n]] := by
  rw [GroupNode.updateAt]
  induction gs with
  | nil =>
    rw [updateNamed, placedIn_cons, hf.name_eq, hf.subgroups_eq]
    rfl
  | cons g gs ih =>
    rw [List.map_cons, List.mem_cons, not_or] at fresh
    rw [updateNamed, if_neg (Ne.symm fresh.1), placedIn, placedIn, List.map_append,
      List.map_append, ih fresh.2, List.append_assoc]

end change

/-! ## The first group of a name -/

section first

variable {n : String} {f : GroupNode → GroupNode}

theorem find?_placedIn_eq_none (above : List String) {gs : List GroupNode} (h : n ∉ names gs) :
    (placedIn above gs).find? (·.2.name == n) = none := by
  refine List.find?_eq_none.2 fun x hx same => h ?_
  have listed : x.2 ∈ allIn gs := by
    rw [← map_snd_placedIn above gs]
    exact List.mem_map_of_mem hx
  exact List.mem_map.2 ⟨x.2, listed, by simpa using same⟩

theorem find?_placed_eq_none (above : List String) {g : GroupNode} (h : n ∉ names [g]) :
    (placed above g).find? (·.2.name == n) = none := by
  simpa [placedIn] using find?_placedIn_eq_none above h

/-- A change at the end of a chain that starts at a later group leaves the first one. -/
theorem updateAt_cons_of_ne {m : String} (rest : List String) (other : g.name ≠ m) :
    updateAt f above (m :: rest) (g :: gs) = g :: updateAt f above (m :: rest) gs := by
  cases rest with
  | nil => rw [updateAt, updateNamed, if_neg other, updateAt]
  | cons next rest => rw [updateAt, updateNamed, if_neg other, updateAt] <;> simp

mutual

theorem exists_updateAt_of_updateFirst? (above : List String) {g g' : GroupNode}
    (h : Apart g.subgroups) (changed : updateFirst? n f g = some g') :
    ∃ rest first, (placed above g).find? (·.2.name == n) =
        some (above ++ g.name :: rest, first) ∧
      ∀ gs, updateAt f above (g.name :: rest) (g :: gs) = g' :: gs := by
  obtain ⟨m, p, cs, subs⟩ := g
  rw [updateFirst?] at changed
  split at changed
  · next same =>
    obtain rfl := Option.some.inj changed
    refine ⟨[], node m p cs subs, ?_, fun gs => ?_⟩
    · rw [placed, List.find?_cons_of_pos]
      · rfl
      · simpa [name] using same
    · rw [updateAt, updateNamed, if_pos rfl]
  · next other =>
    obtain ⟨subs', deeper, rfl⟩ := Option.map_eq_some_iff.1 changed
    have h : Apart subs := h
    obtain ⟨chain, first, hne, found, same⟩ :=
      exists_updateAt_of_updateFirstIn? (above ++ [m]) h deeper
    refine ⟨chain, first, ?_, fun gs => ?_⟩
    · rw [placed, List.find?_cons_of_neg]
      · rw [found, List.append_assoc]
        rfl
      · simpa [name] using other
    · rw [updateAt, updateNamed, if_pos rfl, name, subgroups, same]
      · rfl
      · exact hne

/-- To change the first group of a name is to change the group at the end of its chain. -/
theorem exists_updateAt_of_updateFirstIn? (above : List String) {gs gs' : List GroupNode}
    (h : Apart gs) (changed : updateFirstIn? n f gs = some gs') :
    ∃ chain first, chain ≠ [] ∧
      (placedIn above gs).find? (·.2.name == n) = some (above ++ chain, first) ∧
      updateAt f above chain gs = gs' := by
  cases gs with
  | nil => cases changed
  | cons g gs =>
    obtain ⟨new, below, others⟩ := apart_cons.1 h
    rw [updateFirstIn?] at changed
    split at changed
    · next g' inside =>
      obtain rfl := Option.some.inj changed
      obtain ⟨rest, first, found, same⟩ :=
        exists_updateAt_of_updateFirst? above below inside
      refine ⟨g.name :: rest, first, List.cons_ne_nil _ _, ?_, same gs⟩
      rw [placedIn, List.find?_append, found, Option.some_or]
    · next none =>
      obtain ⟨gs', later, rfl⟩ := Option.map_eq_some_iff.1 changed
      obtain ⟨chain, first, hne, found, same⟩ :=
        exists_updateAt_of_updateFirstIn? above others later
      refine ⟨chain, first, hne, ?_, ?_⟩
      · rw [placedIn, List.find?_append,
          find?_placed_eq_none above ((updateFirst?_eq_none_iff g).1 none), Option.none_or, found]
      · obtain ⟨m, rest, listed, whole⟩ :=
          exists_append_of_mem_placedIn gs (List.mem_of_find?_eq_some found)
        obtain rfl : chain = m :: rest := List.append_cancel_left whole
        rw [updateAt_cons_of_ne rest fun same => new (same ▸ listed), same]

end

end first

/-- A group of some name is at the end of some chain. -/
theorem Apart.exists_at? (h : Apart gs) (listed : g ∈ allIn gs) :
    ∃ chain, at? chain gs = some g := by
  rw [← map_snd_placedIn [] gs] at listed
  obtain ⟨x, hx, rfl⟩ := List.mem_map.1 listed
  exact ⟨x.1, h.mem_placedIn_iff.1 hx⟩

/-- The first group of a name is at the end of the first chain that ends in the name. -/
theorem Apart.map_fst_find? (h : Apart gs) (n : String) :
    ((placedIn [] gs).find? (·.2.name == n)).map (·.1) =
      ((placedIn [] gs).map (·.1)).find? (·.getLast? == some n) := by
  rw [List.find?_map]
  congr 1
  refine List.find?_congr fun x hx => ?_
  have ends := (mem_allIn_of_at? (h.mem_placedIn_iff.1 hx)).2
  simp [ends]

end ArchModel.GroupNode
