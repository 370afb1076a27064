import ArchModel.Entries
import Mathlib.Data.List.Nodup

/-!
# Members and what stands before them

* `filterPlaces` are the members of a list that pass a test which sees what stands before them;
  `anew` are those of a new key, `again` the others. No pass over the list occurs in them.
* `SameKeys` is what a pass over a list that remembers some members needs to know of them.
* `dedupe_eq_anew`: without repetition a list has the members that are new.
* `flatMap_filter_perm`: the members of distinct keys, key by key, are the members of these keys.
-/

namespace ArchModel

section places

variable {α κ : Type} [DecidableEq κ] {key : α → κ} {seen earlier : List α}

/-- The members of a list that pass a test, which sees what stands before them as well: `earlier`
and the members before. -/
def filterPlaces (test : List α → α → Bool) (earlier as : List α) : List α :=
  (as.zipIdx.filter fun x => test (earlier ++ as.take x.2) x.1).map Prod.fst

/-- The members of a list that have the key of nothing before them. -/
def anew (key : α → κ) : List α → List α → List α :=
  filterPlaces fun before a => decide (∀ b ∈ before, key b ≠ key a)

/-- The members of a list that have the key of something before them. -/
def again (key : α → κ) : List α → List α → List α :=
  filterPlaces fun before a => decide (∃ b ∈ before, key b = key a)

theorem filterPlaces_cons (test : List α → α → Bool) (earlier : List α) (a : α) (as : List α) :
    filterPlaces test earlier (a :: as) =
      (if test earlier a then [a] else []) ++ filterPlaces test (earlier ++ [a]) as := by
  rw [filterPlaces, List.zipIdx_cons, List.zipIdx_succ, List.filter_cons, List.filter_map,
    filterPlaces]
  by_cases h : test earlier a <;> simp [h, Function.comp_def]

theorem anew_cons_of_mem {a : α} (h : key a ∈ earlier.map key) (as : List α) :
    anew key earlier (a :: as) = anew key (earlier ++ [a]) as := by
  rw [anew, filterPlaces_cons, if_neg, List.nil_append]
  simpa using h

theorem anew_cons_of_notMem {a : α} (h : key a ∉ earlier.map key) (as : List α) :
    anew key earlier (a :: as) = a :: anew key (earlier ++ [a]) as := by
  rw [anew, filterPlaces_cons, if_pos, List.singleton_append]
  simpa using h

theorem again_cons_of_mem {a : α} (h : key a ∈ earlier.map key) (as : List α) :
    again key earlier (a :: as) = a :: again key (earlier ++ [a]) as := by
  rw [again, filterPlaces_cons, if_pos, List.singleton_append]
  simpa using h

theorem again_cons_of_notMem {a : α} (h : key a ∉ earlier.map key) (as : List α) :
    again key earlier (a :: as) = again key (earlier ++ [a]) as := by
  rw [again, filterPlaces_cons, if_neg, List.nil_append]
  simpa using h

/-! ## What a pass remembers -/

/-- What was seen has the keys of what stands earlier. -/
def SameKeys (key : α → κ) (seen earlier : List α) : Prop :=
  ∀ k, k ∈ seen.map key ↔ k ∈ earlier.map key

namespace SameKeys

omit [DecidableEq κ] in
theorem nil (key : α → κ) : SameKeys key [] [] := fun _ => Iff.rfl

omit [DecidableEq κ] in
theorem concat (h : SameKeys key seen earlier) (a : α) :
    SameKeys key (seen ++ [a]) (earlier ++ [a]) := by
  intro k
  simp only [List.map_append, List.mem_append, h k]

omit [DecidableEq κ] in
/-- A member of a known key need not be seen. -/
theorem pass (h : SameKeys key seen earlier) {a : α} (ha : key a ∈ earlier.map key) :
    SameKeys key seen (earlier ++ [a]) := by
  intro k
  rw [h k, List.map_append, List.mem_append, List.map_singleton, List.mem_singleton]
  exact ⟨.inl, fun known => known.elim id fun same => same ▸ ha⟩

end SameKeys

end places

/-! ## Lists without repetition -/

section dedupe

variable {α : Type} [DecidableEq α]

theorem foldl_dedupe_eq_anew {seen earlier : List α} (h : SameKeys id seen earlier)
    (as : List α) :
    as.foldl (fun seen a => if a ∈ seen then seen else seen ++ [a]) seen =
      seen ++ anew id earlier as := by
  induction as generalizing seen earlier with
  | nil => exact (List.append_nil seen).symm
  | cons a as ih =>
    have known : a ∈ seen ↔ a ∈ earlier.map id := by simpa using h a
    rw [List.foldl_cons]
    by_cases ha : a ∈ seen
    · rw [if_pos ha, anew_cons_of_mem (known.1 ha), ih (h.pass (known.1 ha))]
    · rw [if_neg ha, anew_cons_of_notMem (mt known.2 ha), ih (h.concat a), List.append_assoc,
        List.singleton_append]

/-- Without repetition a list has the members that are new. -/
theorem dedupe_eq_anew (as : List α) : dedupe as = anew id [] as :=
  foldl_dedupe_eq_anew (.nil id) as

end dedupe

/-! ## Members key by key -/

/-- The members of distinct keys, key by key, are the members of these keys. -/
theorem flatMap_filter_perm {α κ : Type} [DecidableEq κ] (key : α → κ) {ks : List κ}
    (distinct : ks.Nodup) (as : List α) {test : α → Bool}
    (h : ∀ a ∈ as, test a = true ↔ key a ∈ ks) :
    (ks.flatMap fun k => as.filter (key · = k)).Perm (as.filter test) := by
  induction ks generalizing test with
  | nil =>
    have none : as.filter test = [] := List.filter_eq_nil_iff.2 fun a ha passed =>
      List.not_mem_nil ((h a ha).1 passed)
    rw [none]
    exact .refl _
  | cons k ks ih =>
    obtain ⟨new, distinct⟩ := List.nodup_cons.1 distinct
    have here : (as.filter test).filter (key · = k) = as.filter (key · = k) := by
      rw [List.filter_filter]
      refine List.filter_congr fun a ha => ?_
      by_cases same : key a = k
      · simp [same, (h a ha).2 (same ▸ List.mem_cons_self)]
      · simp [same]
    have rest : ∀ a ∈ as, (!decide (key a = k) && test a) = true ↔ key a ∈ ks := by
      intro a ha
      rw [Bool.and_eq_true, h a ha, List.mem_cons]
      by_cases same : key a = k
      · simp [same, new]
      · simp [same]
    have parted := List.filter_append_perm (key · = k) (as.filter test)
    rw [here, List.filter_filter] at parted
    exact ((ih distinct rest).append_left _).trans parted

/-- Where all keys are listed, the members key by key are all members. -/
theorem flatMap_filter_perm_self {α κ : Type} [DecidableEq κ] (key : α → κ) {ks : List κ}
    (distinct : ks.Nodup) {as : List α} (all : ∀ a ∈ as, key a ∈ ks) :
    (ks.flatMap fun k => as.filter (key · = k)).Perm as := by
  have listed : ∀ a ∈ as, true = true ↔ key a ∈ ks := fun a ha => iff_of_true rfl (all a ha)
  have parted := flatMap_filter_perm key distinct as listed
  rwa [List.filter_true] at parted

end ArchModel
