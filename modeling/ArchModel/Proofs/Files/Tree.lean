import ArchModel.Files.Tree
import Mathlib.Data.List.Nodup

/-!
# File trees and their entries

* `Tree.Proper` holds of the trees that file systems have: no two entries of a directory have one
  name, and none is called `..`.
* `find?_append`: below a path, a tree is found as the tree that stands there.
* `Tree.Reordered` relates trees that differ in the order of entries alone. What stands at a path
  does not depend on that order (`Reordered.exists_find?`).
-/

namespace ArchModel.Tree

variable {t t' d : Tree} {es es' : List (String × Tree)} {above above' : List Tree}
  {names more : List String} {name : String}

/-! ## Proper trees -/

/-- The entries of each directory have names of their own, and none leads back up. -/
inductive Proper : Tree → Prop
  | file (bytes : List UInt8) : Proper (.file bytes)
  | dir {es : List (String × Tree)} (names : (es.map Prod.fst).Nodup)
    (down : ∀ e ∈ es, e.1 ≠ "..") (entries : ∀ e ∈ es, Proper e.2) : Proper (.dir es)

theorem Proper.parts (h : Proper (.dir es)) :
    (es.map Prod.fst).Nodup ∧ (∀ e ∈ es, e.1 ≠ "..") ∧ ∀ e ∈ es, e.2.Proper := by
  cases h with
  | dir names down entries => exact ⟨names, down, entries⟩

/-- The entry of a name is the only one. -/
theorem entry_eq_some_iff (distinct : (es.map Prod.fst).Nodup) :
    Tree.entry? (dir es) name = some d ↔ (name, d) ∈ es := by
  have there : Tree.entry? (dir es) name = (es.find? (·.1 == name)).map (·.2) := rfl
  rw [there, Option.map_eq_some_iff]
  constructor
  · rintro ⟨e, found, rfl⟩
    obtain rfl : e.1 = name := by simpa using List.find?_some found
    exact List.mem_of_find?_eq_some found
  · intro listed
    obtain ⟨e, found⟩ : ∃ e, es.find? (·.1 == name) = some e :=
      Option.isSome_iff_exists.1 (List.find?_isSome.2 ⟨(name, d), listed, by simp⟩)
    have same : e.1 = (name, d).1 := by simpa using List.find?_some found
    obtain rfl := List.inj_on_of_nodup_map distinct (List.mem_of_find?_eq_some found) listed same
    exact ⟨_, found, rfl⟩

theorem Proper.of_entry (h : t.Proper) (found : t.entry? name = some d) : d.Proper := by
  cases h with
  | file => cases found
  | dir names _ entries => exact entries _ ((entry_eq_some_iff names).1 found)

/-! ## Ways of names -/

theorem follow_cons (down : name ≠ "..") (above : List Tree) (t : Tree) (names : List String) :
    t.follow above (name :: names) = (t.entry? name).bind fun d => d.follow (t :: above) names := by
  rw [follow.eq_def]
  exact if_neg down

theorem follow_file (above : List Tree) (bytes : List UInt8) (names : List String) :
    (file bytes).follow above (".." :: names) = none := by
  rw [follow.eq_def]
  rfl

theorem follow_up (es : List (String × Tree)) (up : Tree) (above : List Tree)
    (names : List String) :
    (dir es).follow (up :: above) (".." :: names) = up.follow above names := by
  rw [follow.eq_def]
  rfl

theorem follow_top (es : List (String × Tree)) (names : List String) :
    (dir es).follow [] (".." :: names) = (dir es).follow [] names := by
  rw [follow.eq_def]
  rfl

/-- A way that does not lead up depends on nothing above. -/
theorem follow_of_notMem (down : ".." ∉ names) (above above' : List Tree) :
    t.follow above names = t.follow above' names := by
  induction names generalizing t above above' with
  | nil => rw [follow.eq_def, follow.eq_def]
  | cons name names ih =>
    rw [List.mem_cons, not_or] at down
    rw [follow_cons (Ne.symm down.1), follow_cons (Ne.symm down.1)]
    exact congrArg _ (funext fun _ => ih down.2 _ _)

/-- A way goes on from where it has led. -/
theorem follow_append (down : ".." ∉ more) (above : List Tree) (t : Tree) (names : List String) :
    t.follow above (names ++ more) =
      (t.follow above names).bind fun d => d.follow [] more := by
  induction names generalizing above t with
  | nil =>
    have start : t.follow above [] = some t := by rw [follow.eq_def]
    rw [start]
    exact follow_of_notMem down above []
  | cons name names ih =>
    rw [List.cons_append]
    by_cases up : name = ".."
    · subst up
      cases t with
      | file bytes => rw [follow_file, follow_file, Option.bind_none]
      | dir es =>
        cases above with
        | nil => rw [follow_top, follow_top, ih]
        | cons t above => rw [follow_up, follow_up, ih]
    · rw [follow_cons up, follow_cons up, Option.bind_assoc]
      exact congrArg _ (funext fun _ => ih _ _)

theorem find?_append (down : ".." ∉ more) (root : Path) :
    t.find? ⟨root.parts ++ more⟩ = (t.find? root).bind fun d => d.find? ⟨more⟩ :=
  follow_append down [] t root.parts

theorem find?_cons (down : ".." ∉ name :: names) :
    t.find? ⟨name :: names⟩ = (t.entry? name).bind fun d => d.find? ⟨names⟩ := by
  rw [List.mem_cons, not_or] at down
  rw [find?, follow_cons (Ne.symm down.1)]
  exact congrArg _ (funext fun _ => follow_of_notMem down.2 _ _)

/-- Whatever a way leads to in a proper tree is proper. -/
theorem Proper.of_follow (h : t.Proper) (ha : ∀ u ∈ above, u.Proper)
    (found : t.follow above names = some d) : d.Proper := by
  induction names generalizing t above with
  | nil =>
    rw [follow.eq_def] at found
    exact Option.some.inj found ▸ h
  | cons name names ih =>
    by_cases up : name = ".."
    · subst up
      cases t with
      | file bytes =>
        rw [follow_file] at found
        cases found
      | dir es =>
        cases above with
        | nil =>
          rw [follow_top] at found
          exact ih h ha found
        | cons t above =>
          rw [follow_up] at found
          obtain ⟨ht, ha⟩ := List.forall_mem_cons.1 ha
          exact ih ht ha found
    · rw [follow_cons up] at found
      obtain ⟨u, entry, found⟩ := Option.bind_eq_some_iff.1 found
      exact ih (h.of_entry entry) (List.forall_mem_cons.2 ⟨h, ha⟩) found

/-! ## The order of entries -/

/-- The entries of directories stand in another order. -/
inductive Reordered : Tree → Tree → Prop
  | refl (t : Tree) : Reordered t t
  /-- The entries of a directory in any order. -/
  | perm {es es' : List (String × Tree)} (h : es.Perm es') : Reordered (.dir es) (.dir es')
  /-- The entries of an entry in another order. -/
  | entry {t t' : Tree} (before after : List (String × Tree)) (name : String)
    (h : Reordered t t') :
    Reordered (.dir (before ++ (name, t) :: after)) (.dir (before ++ (name, t') :: after))
  | trans {t t' t'' : Tree} (h : Reordered t t') (h' : Reordered t' t'') : Reordered t t''

namespace Reordered

theorem symm (h : t.Reordered t') : t'.Reordered t := by
  induction h with
  | refl t => exact .refl t
  | perm h => exact .perm h.symm
  | entry before after name _ ih => exact .entry before after name ih
  | trans _ _ ih ih' => exact ih'.trans ih

theorem isDir_eq (h : t.Reordered t') : t.isDir = t'.isDir := by
  induction h with
  | refl => rfl
  | perm => rfl
  | entry => rfl
  | trans _ _ ih ih' => exact ih.trans ih'

theorem proper (h : t.Reordered t') (ht : t.Proper) : t'.Proper := by
  induction h with
  | refl => exact ht
  | perm h =>
    obtain ⟨names, down, entries⟩ := ht.parts
    exact .dir ((h.map Prod.fst).nodup_iff.1 names) (fun e he => down e (h.mem_iff.2 he))
      fun e he => entries e (h.mem_iff.2 he)
  | entry before after name h ih =>
    obtain ⟨names, down, entries⟩ := ht.parts
    simp only [List.forall_mem_append, List.forall_mem_cons] at down entries
    refine .dir (by simpa using names) ?_ ?_
    · simpa only [List.forall_mem_append, List.forall_mem_cons] using down
    · simpa only [List.forall_mem_append, List.forall_mem_cons] using
        ⟨entries.1, ih entries.2.1, entries.2.2⟩
  | trans _ _ ih ih' => exact ih' (ih ht)

/-- An entry keeps its name. -/
theorem exists_entry (h : t.Reordered t') (ht : t.Proper) (found : t.entry? name = some d) :
    ∃ d', t'.entry? name = some d' ∧ d.Reordered d' := by
  induction h generalizing d with
  | refl => exact ⟨d, found, .refl d⟩
  | perm h =>
    refine ⟨d, ?_, .refl d⟩
    rw [entry_eq_some_iff ht.parts.1] at found
    exact (entry_eq_some_iff ((perm h).proper ht).parts.1).2 (h.mem_iff.1 found)
  | @entry u u' before after other h ih =>
    have listed := (entry_eq_some_iff ht.parts.1).1 found
    have names' := ((entry before after other h).proper ht).parts.1
    simp only [entry_eq_some_iff names']
    rcases List.mem_append.1 listed with first | inside
    · exact ⟨d, List.mem_append_left _ first, .refl d⟩
    · rcases List.mem_cons.1 inside with here | last
      · obtain ⟨rfl, rfl⟩ := Prod.mk.inj here
        exact ⟨u', List.mem_append_right _ List.mem_cons_self, h⟩
      · exact ⟨d, List.mem_append_right _ (List.mem_cons_of_mem _ last), .refl d⟩
  | trans h h' ih ih' =>
    obtain ⟨d₁, found, one⟩ := ih ht found
    obtain ⟨d₂, found, two⟩ := ih' (h.proper ht) found
    exact ⟨d₂, found, one.trans two⟩

theorem exists_follow (h : t.Reordered t') (ht : t.Proper)
    (ha : List.Forall₂ Reordered above above') (proper : ∀ u ∈ above, u.Proper)
    (found : t.follow above names = some d) :
    ∃ d', t'.follow above' names = some d' ∧ d.Reordered d' := by
  induction names generalizing t t' above above' with
  | nil =>
    rw [follow.eq_def] at found ⊢
    exact ⟨t', rfl, Option.some.inj found ▸ h⟩
  | cons name names ih =>
    by_cases up : name = ".."
    · subst up
      cases t with
      | file bytes =>
        rw [follow_file] at found
        cases found
      | dir es =>
        cases t' with
        | file bytes => exact absurd h.isDir_eq (by simp [isDir])
        | dir es' =>
          cases ha with
          | nil =>
            rw [follow_top] at found ⊢
            exact ih h ht .nil proper found
          | cons first ha =>
            rw [follow_up] at found ⊢
            obtain ⟨hu, proper⟩ := List.forall_mem_cons.1 proper
            exact ih first hu ha proper found
    · rw [follow_cons up] at found ⊢
      obtain ⟨u, entry, found⟩ := Option.bind_eq_some_iff.1 found
      obtain ⟨u', entry', hu⟩ := h.exists_entry ht entry
      rw [entry', Option.bind_some]
      exact ih hu (ht.of_entry entry) (.cons h ha) (List.forall_mem_cons.2 ⟨ht, proper⟩) found

/-- At a path the same stands, whatever the order of entries is. -/
theorem exists_find? {p : Path} (h : t.Reordered t') (ht : t.Proper) (found : t.find? p = some d) :
    ∃ d', t'.find? p = some d' ∧ d.Reordered d' :=
  h.exists_follow ht .nil (by simp) found

end Reordered

end ArchModel.Tree
