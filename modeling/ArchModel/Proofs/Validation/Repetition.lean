import ArchModel.Validation.Rules
import Mathlib.Data.List.Nodup

/-!
# Relations that repeat earlier ones

* `firsts` are the members of a list that have the key of no earlier one.
* `allRelations_dropRepeated`: these are the relations that are kept.
* `duplicateRelation_check_dropRepeated`: then no relation repeats another one.
* `Rule.rule_of_mem_check`: each breach tells of the rule that is broken.
-/

namespace ArchModel

section firsts

variable {α κ : Type} [DecidableEq κ] {key : α → κ} {seen : List α}

/-- The members of a list that have the key of no earlier one; `seen` are the members before. -/
def firsts (key : α → κ) (seen : List α) : List α → List α
  | [] => []
  | a :: as =>
    match seen.find? (key · = key a) with
    | some _ => firsts key seen as
    | none => a :: firsts key (seen ++ [a]) as

theorem find?_key_eq_none_iff {a : α} :
    seen.find? (key · = key a) = none ↔ key a ∉ seen.map key := by
  simp [List.find?_eq_none]

theorem firsts_cons_of_mem {a : α} (h : key a ∈ seen.map key) (as : List α) :
    firsts key seen (a :: as) = firsts key seen as := by
  rw [firsts]
  split
  · rfl
  · next none => exact absurd h (find?_key_eq_none_iff.1 none)

theorem firsts_cons_of_notMem {a : α} (h : key a ∉ seen.map key) (as : List α) :
    firsts key seen (a :: as) = a :: firsts key (seen ++ [a]) as := by
  rw [firsts, find?_key_eq_none_iff.2 h]

theorem firsts_append (as bs : List α) :
    firsts key seen (as ++ bs) =
      firsts key seen as ++ firsts key (seen ++ firsts key seen as) bs := by
  induction as generalizing seen with
  | nil => simp [firsts]
  | cons a as ih =>
    by_cases ha : key a ∈ seen.map key
    · rw [List.cons_append, firsts_cons_of_mem ha, firsts_cons_of_mem ha, ih]
    · rw [List.cons_append, firsts_cons_of_notMem ha, firsts_cons_of_notMem ha, ih]
      simp

theorem sublist_firsts (key : α → κ) (seen as : List α) : (firsts key seen as).Sublist as := by
  induction as generalizing seen with
  | nil => exact List.Sublist.slnil
  | cons a as ih =>
    rw [firsts]
    split
    · exact (ih seen).cons a
    · exact (ih _).cons_cons a

theorem mem_of_mem_firsts {a : α} {as : List α} (h : a ∈ firsts key seen as) : a ∈ as :=
  (sublist_firsts key seen as).subset h

/-- Each key has its first member. -/
theorem exists_key_firsts {a : α} {as : List α} (h : a ∈ as) :
    ∃ b ∈ seen ++ firsts key seen as, key b = key a := by
  induction as generalizing seen with
  | nil => cases h
  | cons c as ih =>
    have first : ∃ b ∈ seen ++ firsts key seen (c :: as), key b = key c := by
      by_cases hc : key c ∈ seen.map key
      · obtain ⟨b, hb, same⟩ := List.mem_map.1 hc
        exact ⟨b, List.mem_append_left _ hb, same⟩
      · exact ⟨c, by simp [firsts_cons_of_notMem hc], rfl⟩
    rcases List.mem_cons.1 h with rfl | h
    · exact first
    · by_cases hc : key c ∈ seen.map key
      · rw [firsts_cons_of_mem hc]
        exact ih h
      · rw [firsts_cons_of_notMem hc, List.append_cons]
        exact ih h

theorem nodup_firsts (h : (seen.map key).Nodup) (as : List α) :
    ((seen ++ firsts key seen as).map key).Nodup := by
  induction as generalizing seen with
  | nil => simpa [firsts] using h
  | cons a as ih =>
    by_cases ha : key a ∈ seen.map key
    · rw [firsts_cons_of_mem ha]
      exact ih h
    · have more : ((seen ++ [a]).map key).Nodup := by
        rw [List.map_append]
        exact h.append (List.nodup_singleton _) (by simpa using ha)
      rw [firsts_cons_of_notMem ha]
      simpa using ih more

omit [DecidableEq κ] in
theorem key_notMem_of_nodup {a : α} {as : List α} (h : ((seen ++ a :: as).map key).Nodup) :
    key a ∉ seen.map key := fun known => by
  rw [List.map_append, List.nodup_append] at h
  exact h.2.2 _ known _ (by simp) rfl

theorem firsts_of_nodup {as : List α} (h : ((seen ++ as).map key).Nodup) :
    firsts key seen as = as := by
  induction as generalizing seen with
  | nil => rfl
  | cons a as ih =>
    rw [firsts_cons_of_notMem (key_notMem_of_nodup h), ih (by simpa using h)]

theorem repetitions_eq_nil {as : List α} (h : ((seen ++ as).map key).Nodup) :
    repetitions key seen as = [] := by
  induction as generalizing seen with
  | nil => rfl
  | cons a as ih =>
    rw [repetitions, find?_key_eq_none_iff.2 (key_notMem_of_nodup h)]
    exact ih (by simpa using h)

end firsts

/-! ## Relations -/

/-- Relations are kept one after the other, unless their keys were seen. -/
theorem foldl_keep (kept seen rs : List Relation) :
    rs.foldl (fun p r => if r.key ∈ p.2 then p else (p.1 ++ [r], p.2 ++ [r.key]))
        (kept, seen.map Relation.key) =
      (kept ++ firsts Relation.key seen rs,
        (seen ++ firsts Relation.key seen rs).map Relation.key) := by
  induction rs generalizing kept seen with
  | nil => simp [firsts]
  | cons r rs ih =>
    rw [List.foldl_cons]
    dsimp only
    by_cases hr : r.key ∈ seen.map Relation.key
    · rw [if_pos hr, firsts_cons_of_mem hr, ih]
    · have more : seen.map Relation.key ++ [r.key] = (seen ++ [r]).map Relation.key := by simp
      rw [if_neg hr, firsts_cons_of_notMem hr, more, ih]
      simp

theorem dropRepeated_cons (seen : List Relation) (c : Component) (cs : List Component) :
    dropRepeated (seen.map Relation.key) (c :: cs) =
      { c with relations := firsts Relation.key seen c.relations } ::
        dropRepeated ((seen ++ firsts Relation.key seen c.relations).map Relation.key) cs := by
  let rest (p : List Relation × List (String × String × String)) : List Component :=
    { c with relations := p.1 } :: dropRepeated p.2 cs
  exact congrArg rest (foldl_keep [] seen c.relations)

/-- The relations that are kept have the key of no earlier one. -/
theorem allRelations_dropRepeated (seen : List Relation) (cs : List Component) :
    Component.allRelations (dropRepeated (seen.map Relation.key) cs) =
      firsts Relation.key seen (Component.allRelations cs) := by
  induction cs generalizing seen with
  | nil => rfl
  | cons c cs ih =>
    rw [dropRepeated_cons, Component.allRelations_cons, Component.allRelations_cons, ih,
      firsts_append]

theorem nodup_key_dropRepeated (cs : List Component) :
    ((Component.allRelations (dropRepeated [] cs)).map Relation.key).Nodup := by
  have kept := allRelations_dropRepeated [] cs
  rw [List.map_nil] at kept
  have start : (([] : List Relation).map Relation.key).Nodup := by simp
  rw [kept]
  simpa using nodup_firsts start (Component.allRelations cs)

/-- When the relations that repeat earlier ones are removed, none is left that does. -/
theorem duplicateRelation_check_dropRepeated (cs : List Component) :
    Rule.duplicateRelation.check (dropRepeated [] cs) = [] := by
  rw [Rule.check, repetitions_eq_nil (by simpa using nodup_key_dropRepeated cs), List.map_nil]

/-! ## Breaches -/

theorem Rule.rule_of_mem_check {rule : Rule} {cs : List Component} {b : RuleBreach}
    (h : b ∈ rule.check cs) : b.rule = rule := by
  cases rule <;> simp only [Rule.check, List.mem_map, List.mem_flatMap] at h
  · obtain ⟨_, -, rfl⟩ := h
    rfl
  · obtain ⟨_, -, _, -, rfl⟩ := h
    rfl
  all_goals
    obtain ⟨_, -, rfl⟩ := h
    rfl

theorem Rule.word_inj {r r' : Rule} (h : r.word = r'.word) : r = r' := by
  cases r <;> cases r' <;> first | rfl | exact absurd h (by decide)

end ArchModel
