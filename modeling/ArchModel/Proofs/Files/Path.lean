import ArchModel.Files.Tree
import ArchModel.Proofs.Text.Cut

/-!
# Paths and their texts

* `Path.resolve_resolve`: working `..` out twice is working it out once.
* `Path.Plain` holds of the paths whose names show in their texts; texts lead to such paths
  (`Path.plain_join`), working `..` out keeps them plain, and they are told apart by their texts
  (`Path.Plain.text_inj`).
* `Path.Named` holds of the paths that their texts lead back to (`Path.Named.join_text`), as all
  paths do that texts lead to (`Path.named_join`).
-/

namespace ArchModel.Path

open Text

/-! ## Working names out -/

/-- A name that is left is a name of the path and does not lead back. -/
theorem of_mem_resolve {p : Path} {name : String} (h : name ∈ p.resolve.parts) :
    name ∈ p.parts ∧ name ≠ ".." := by
  have run : ∀ parts left : List String,
      name ∈ parts.foldl (fun names part =>
        if part = ".." then names.dropLast else names ++ [part]) left →
      name ∈ left ∨ name ∈ parts ∧ name ≠ ".." := by
    intro parts
    induction parts with
    | nil => exact fun left h => .inl h
    | cons part parts ih =>
      intro left h
      rw [List.foldl_cons] at h
      rcases ih _ h with h | h
      · split at h
        · exact .inl ((List.dropLast_sublist _).subset h)
        · next other =>
          rcases List.mem_append.1 h with h | h
          · exact .inl h
          · obtain rfl := List.mem_singleton.1 h
            exact .inr ⟨List.mem_cons_self, other⟩
      · exact .inr ⟨List.mem_cons_of_mem _ h.1, h.2⟩
  exact (run p.parts [] h).resolve_left List.not_mem_nil

/-- A path without `..` is worked out already. -/
theorem resolve_of_forall_ne {p : Path} (h : ∀ name ∈ p.parts, name ≠ "..") : p.resolve = p := by
  have run : ∀ parts left : List String, (∀ name ∈ parts, name ≠ "..") →
      parts.foldl (fun names part =>
        if part = ".." then names.dropLast else names ++ [part]) left = left ++ parts := by
    intro parts
    induction parts with
    | nil => simp
    | cons part parts ih =>
      intro left h
      obtain ⟨other, h⟩ := List.forall_mem_cons.1 h
      rw [List.foldl_cons, if_neg other, ih _ h, List.append_assoc, List.singleton_append]
  have parts := run p.parts [] h
  rw [List.nil_append] at parts
  exact congrArg Path.mk parts

@[simp] theorem resolve_resolve (p : Path) : p.resolve.resolve = p.resolve :=
  resolve_of_forall_ne fun _ h => (of_mem_resolve h).2

/-! ## Names of a joined path -/

/-- The names of a path that a text leads to are the directory's or parts of the text. -/
theorem of_mem_join {dir : Path} {s name : String} (h : name ∈ (dir.join s).parts) :
    name ∈ dir.parts ∨ name ≠ "" ∧ name ≠ "." ∧ '/' ∉ name.toList := by
  have names (hn : name ∈ (split '/' s).filter fun part => part ≠ "" ∧ part ≠ ".") :
      name ≠ "" ∧ name ≠ "." ∧ '/' ∉ name.toList := by
    obtain ⟨listed, kept⟩ := List.mem_filter.1 hn
    obtain ⟨cs, part, rfl⟩ := List.mem_map.1 listed
    obtain ⟨nonempty, noDot⟩ := of_decide_eq_true kept
    exact ⟨nonempty, noDot, by simpa using (mem_splitOn part).1⟩
  unfold join at h
  dsimp only at h
  split at h
  · exact .inr (names h)
  · exact (List.mem_append.1 h).imp_right names

/-! ## Plain paths -/

/-- Whether the names of a path show in its text: none is empty or has a slash. -/
def Plain (p : Path) : Prop := ∀ name ∈ p.parts, name ≠ "" ∧ '/' ∉ name.toList

instance (p : Path) : Decidable p.Plain :=
  inferInstanceAs (Decidable (∀ name ∈ p.parts, name ≠ "" ∧ '/' ∉ name.toList))

theorem Plain.resolve {p : Path} (h : p.Plain) : p.resolve.Plain :=
  fun name hn => h name (of_mem_resolve hn).1

/-- A text leads from a plain path to plain paths. -/
theorem plain_join {dir : Path} (h : dir.Plain) (s : String) : (dir.join s).Plain :=
  fun name hn => (of_mem_join hn).elim (h name) fun own => ⟨own.1, own.2.2⟩

/-- Plain paths are told apart by their texts. -/
theorem Plain.text_inj {p q : Path} (hp : p.Plain) (hq : q.Plain) (h : p.text = q.text) :
    p = q := by
  have parts_of {p : Path} (hp : p.Plain) :
      ((Text.join "/" p.parts).toList.splitOn '/').filter (· ≠ []) =
        p.parts.map String.toList := by
    rw [toList_join]
    by_cases none : p.parts = []
    · simp [none]
    · have apart : ∀ cs ∈ p.parts.map String.toList, '/' ∉ cs := by
        simpa using fun name hn => (hp name hn).2
      have slash : "/".toList = ['/'] := rfl
      rw [slash, List.splitOn_intercalate '/' apart (by simpa using none)]
      exact List.filter_eq_self.2 (by simpa using fun name hn => (hp name hn).1)
  have same : (Text.join "/" p.parts).toList = (Text.join "/" q.parts).toList := by
    have := congrArg String.toList h
    simpa [text] using this
  have parts : p.parts.map String.toList = q.parts.map String.toList := by
    rw [← parts_of hp, ← parts_of hq, same]
  exact congrArg Path.mk (List.map_injective_iff.2 (fun _ _ => String.toList_inj.1) parts)

/-! ## Named paths -/

/-- Whether the text of a path leads back to it: no name is empty or `.` or has a slash. -/
def Named (p : Path) : Prop := ∀ name ∈ p.parts, name ≠ "" ∧ name ≠ "." ∧ '/' ∉ name.toList

instance (p : Path) : Decidable p.Named :=
  inferInstanceAs (Decidable (∀ name ∈ p.parts, name ≠ "" ∧ name ≠ "." ∧ '/' ∉ name.toList))

theorem Named.resolve {p : Path} (h : p.Named) : p.resolve.Named :=
  fun name hn => h name (of_mem_resolve hn).1

/-- A text leads from a named path to named paths. -/
theorem named_join {dir : Path} (h : dir.Named) (s : String) : (dir.join s).Named :=
  fun name hn => (of_mem_join hn).elim (h name) id

/-- A named path is read off its text. -/
theorem Named.join_text {p : Path} (h : p.Named) : Path.join {} p.text = p := by
  have top : startsWith "/" p.text = true := by
    rw [startsWith_iff, text, String.toList_append]
    exact List.prefix_append _ _
  have parts : (split '/' p.text).filter (fun part => part ≠ "" ∧ part ≠ ".") = p.parts := by
    by_cases none : p.parts = []
    · rw [text, none]
      decide
    · have apart : ∀ cs ∈ p.parts.map String.toList, '/' ∉ cs := by
        simpa using fun name hn => (h name hn).2.2
      have slash : "/".toList = ['/'] := rfl
      have written : (split '/' p.text) = "" :: p.parts := by
        rw [split, text, String.toList_append, toList_join, slash,
          ← List.nil_append (['/'] ++ _), List.singleton_append,
          List.splitOn_append_cons_self, List.splitOn_eq_singleton List.not_mem_nil,
          List.splitOn_intercalate '/' apart (by simpa using none)]
        simp
      have kept : ∀ name ∈ p.parts, name ≠ "" ∧ name ≠ "." :=
        fun name hn => ⟨(h name hn).1, (h name hn).2.1⟩
      rw [written, List.filter_cons_of_neg (by simp)]
      exact List.filter_eq_self.2 (by simpa using kept)
  unfold join
  dsimp only
  rw [if_pos top, parts]

end ArchModel.Path
