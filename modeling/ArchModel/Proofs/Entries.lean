import ArchModel.Entries
import Mathlib.Data.List.Induction
import Mathlib.Data.List.Nodup

/-!
# Looking up entries

What a look-up in `Entries` says about the pairs, and what is found after pairs were inserted.

* `get?_eq_some_iff` is the link between look-up and pairs, `mem_keys_iff` between look-up and keys.
* `toList_ofList` says that pairs of distinct keys are kept as they are.
* `overwrite` puts entries over others: `get?_overwrite` and `keys_overwrite` say what comes of it,
  and `ofList_append` that lists are inserted one after the other in this sense.
* `mem_dedupe` and `nodup_dedupe` pin `dedupe` down up to order, `pairwise_idxOf_dedupe` in order.
  `dedupe_append` and `dedupe_flatMap_dedupe` say what it does to lists that are put together.
-/

namespace ArchModel

/-- A member of a list stands before the last one or is the last one. -/
theorem concat_eq_append_cons_iff {α : Type u} {l above below : List α} {a x : α} :
    l ++ [a] = above ++ x :: below ↔
      below = [] ∧ above = l ∧ x = a ∨ ∃ rest, below = rest ++ [a] ∧ l = above ++ x :: rest := by
  constructor
  · intro whole
    rcases List.eq_nil_or_concat' below with rfl | ⟨rest, b, rfl⟩
    · obtain ⟨rfl, same⟩ := List.append_inj' whole rfl
      exact .inl ⟨rfl, rfl, (List.cons.inj same).1.symm⟩
    · rw [← List.cons_append, ← List.append_assoc] at whole
      obtain ⟨rfl, same⟩ := List.append_inj' whole rfl
      obtain rfl := (List.cons.inj same).1
      exact .inr ⟨rest, rfl, rfl⟩
  · rintro (⟨rfl, rfl, rfl⟩ | ⟨rest, rfl, rfl⟩)
    · rfl
    · rw [List.append_assoc, List.cons_append]

/-- Where the members of other keys give nothing, all members together give what one gives. -/
theorem flatMap_of_nodup_map {α : Type u} {κ : Type v} {β : Type w} {key : α → κ} {l : List α}
    (distinct : (l.map key).Nodup) {a : α} (ha : a ∈ l) {g : α → List β}
    (hg : ∀ b ∈ l, key b ≠ key a → g b = []) : l.flatMap g = g a := by
  obtain ⟨before, after, rfl⟩ := List.append_of_mem ha
  simp only [List.map_append, List.map_cons, List.nodup_append, List.nodup_cons,
    List.mem_cons] at distinct
  obtain ⟨-, ⟨after_ne, -⟩, before_ne⟩ := distinct
  have hb : before.flatMap g = [] := List.flatMap_eq_nil_iff.2 fun b hb =>
    hg b (by simp [hb]) (before_ne _ (List.mem_map_of_mem hb) _ (.inl rfl))
  have ha : after.flatMap g = [] := List.flatMap_eq_nil_iff.2 fun b hb =>
    hg b (by simp [hb]) fun hk => after_ne (hk ▸ List.mem_map_of_mem hb)
  rw [List.flatMap_append, List.flatMap_cons, hb, ha, List.nil_append, List.append_nil]

namespace Entries

variable {κ : Type u} {ν : Type v} [DecidableEq κ]

/-! ## Look-up and pairs -/

theorem mem_of_find {k : κ} {v : ν} {l : List (κ × ν)} (h : find k l = some v) : (k, v) ∈ l := by
  induction l with
  | nil => simp [find] at h
  | cons p l ih =>
    obtain ⟨a, b⟩ := p
    rw [find] at h
    split at h
    · next ha =>
      obtain rfl := Option.some.inj h
      simp [ha]
    · exact List.mem_cons_of_mem _ (ih h)

theorem find_of_mem {k : κ} {v : ν} {l : List (κ × ν)} (hl : (l.map Prod.fst).Nodup)
    (h : (k, v) ∈ l) : find k l = some v := by
  induction l with
  | nil => simp at h
  | cons p l ih =>
    obtain ⟨a, b⟩ := p
    rw [List.map_cons, List.nodup_cons] at hl
    rcases List.mem_cons.1 h with h | h
    · obtain ⟨rfl, rfl⟩ := Prod.mk.inj h
      simp [find]
    · have hk : k ∈ l.map Prod.fst := List.mem_map.2 ⟨_, h, rfl⟩
      have ha : a ≠ k := fun e => hl.1 (e ▸ hk)
      rw [find, if_neg ha]
      exact ih hl.2 h

theorem get?_eq_some_iff {e : Entries κ ν} {k : κ} {v : ν} :
    e.get? k = some v ↔ (k, v) ∈ e.toList :=
  ⟨mem_of_find, find_of_mem e.nodup_keys⟩

theorem mem_keys_iff {e : Entries κ ν} {k : κ} : k ∈ e.keys ↔ ∃ v, e.get? k = some v := by
  simp [keys, get?_eq_some_iff]

theorem contains_iff {e : Entries κ ν} {k : κ} : e.contains k = true ↔ k ∈ e.keys := by
  rw [contains, Option.isSome_iff_exists, mem_keys_iff]

/-- Looking up does not depend on the order of the pairs. -/
theorem get?_eq_of_perm {e f : Entries κ ν} (h : e.toList.Perm f.toList) (k : κ) :
    e.get? k = f.get? k := by
  refine Option.ext fun v => ?_
  rw [get?_eq_some_iff, get?_eq_some_iff, h.mem_iff]

@[simp] theorem get?_empty (k : κ) : (∅ : Entries κ ν).get? k = none := rfl

/-- What is found after an insertion was inserted, or it was there before. -/
theorem get?_insert_eq_some {e : Entries κ ν} {k k' : κ} {v v' : ν}
    (h : (e.insert k v).get? k' = some v') : k = k' ∧ v = v' ∨ e.get? k' = some v' := by
  rw [get?_insert] at h
  split at h
  · next same => exact .inl ⟨same, Option.some.inj h⟩
  · exact .inr h

theorem get?_insertIfNew (e : Entries κ ν) (k k' : κ) (v : ν) :
    (e.insertIfNew k v).get? k' =
      if e.get? k = none ∧ k = k' then some v else e.get? k' := by
  rw [insertIfNew, contains]
  cases h : e.get? k with
  | none => simp
  | some w => simp

/-- Where the pairs of other keys give nothing, all pairs together give what one pair gives. -/
theorem flatMap_toList {α : Type w} {e : Entries κ ν} {k : κ} {v : ν} (h : e.get? k = some v)
    {g : κ × ν → List α} (hg : ∀ x ∈ e.toList, x.1 ≠ k → g x = []) :
    e.toList.flatMap g = g (k, v) :=
  flatMap_of_nodup_map e.nodup_keys (get?_eq_some_iff.1 h) hg

/-! ## Pairs inserted one after the other -/

theorem put_of_notMem {k : κ} {v : ν} {l : List (κ × ν)} (h : k ∉ l.map Prod.fst) :
    put k v l = l ++ [(k, v)] := by
  induction l with
  | nil => rfl
  | cons p l ih =>
    obtain ⟨a, b⟩ := p
    rw [List.map_cons, List.mem_cons, not_or] at h
    rw [put, if_neg fun e => h.1 e.symm, ih h.2, List.cons_append]

theorem toList_insert_of_notMem {e : Entries κ ν} {k : κ} {v : ν} (h : k ∉ e.keys) :
    (e.insert k v).toList = e.toList ++ [(k, v)] :=
  put_of_notMem h

theorem toList_foldl_insert {l : List (κ × ν)} {e : Entries κ ν}
    (h : (e.keys ++ l.map Prod.fst).Nodup) :
    (l.foldl (fun e p => e.insert p.1 p.2) e).toList = e.toList ++ l := by
  induction l generalizing e with
  | nil => simp
  | cons p l ih =>
    have hp : p.1 ∉ e.keys := fun hm =>
      (List.nodup_append.1 h).2.2 _ hm _ (by simp) rfl
    have hl : ((e.insert p.1 p.2).keys ++ l.map Prod.fst).Nodup := by
      rw [keys_insert, if_neg hp]
      simpa using h
    rw [List.foldl_cons, ih hl, toList_insert_of_notMem hp]
    simp

/-- Pairs of distinct keys are kept as they are. -/
theorem toList_ofList {l : List (κ × ν)} (h : (l.map Prod.fst).Nodup) : (ofList l).toList = l := by
  have := toList_foldl_insert (e := (empty : Entries κ ν)) (l := l) (by simpa [keys, empty] using h)
  simpa [ofList, empty] using this

/-- What is found after insertions was there before or was inserted. -/
theorem get?_foldl_insert {l : List (κ × ν)} {e : Entries κ ν} {k : κ} {v : ν}
    (h : (l.foldl (fun e p => e.insert p.1 p.2) e).get? k = some v) :
    e.get? k = some v ∨ (k, v) ∈ l := by
  induction l generalizing e with
  | nil => exact .inl h
  | cons p l ih =>
    rcases ih h with h | h
    · rcases get?_insert_eq_some h with ⟨rfl, rfl⟩ | h
      · exact .inr (by simp)
      · exact .inl h
    · exact .inr (List.mem_cons_of_mem _ h)

theorem ofList_concat (l : List (κ × ν)) (k : κ) (v : ν) :
    ofList (l ++ [(k, v)]) = (ofList l).insert k v := by
  rw [ofList, List.foldl_append]
  rfl

/-- Of the pairs of one key the last one is found. -/
theorem get?_ofList_eq_some_iff {l : List (κ × ν)} {k : κ} {v : ν} :
    (ofList l).get? k = some v ↔
      ∃ above below, l = above ++ (k, v) :: below ∧ k ∉ below.map Prod.fst := by
  induction l using List.reverseRecOn with
  | nil => simp [ofList, empty, get?, find]
  | append_singleton l p ih =>
    obtain ⟨k', v'⟩ := p
    rw [ofList_concat, get?_insert]
    by_cases same : k' = k
    · subst same
      rw [if_pos rfl]
      constructor
      · intro h
        obtain rfl := Option.some.inj h
        exact ⟨l, [], rfl, List.not_mem_nil⟩
      · rintro ⟨above, below, whole, last⟩
        rcases concat_eq_append_cons_iff.1 whole with ⟨-, -, own⟩ | ⟨rest, rfl, -⟩
        · rw [(Prod.mk.inj own).2]
        · simp at last
    · rw [if_neg same, ih]
      constructor
      · rintro ⟨above, below, rfl, last⟩
        refine ⟨above, below ++ [(k', v')], by simp, ?_⟩
        simp only [List.map_append, List.map_cons, List.map_nil, List.mem_append,
          List.mem_singleton, not_or]
        exact ⟨last, Ne.symm same⟩
      · rintro ⟨above, below, whole, last⟩
        rcases concat_eq_append_cons_iff.1 whole with ⟨-, -, own⟩ | ⟨rest, rfl, rfl⟩
        · exact absurd (Prod.mk.inj own).1.symm same
        · refine ⟨above, rest, rfl, fun hk => last ?_⟩
          rw [List.map_append]
          exact List.mem_append_left _ hk

theorem mem_of_get?_ofList {l : List (κ × ν)} {k : κ} {v : ν} (h : (ofList l).get? k = some v) :
    (k, v) ∈ l :=
  (get?_foldl_insert h).resolve_left (by simp [get?, find, empty])

/-! ## Entries over others -/

/-- Entries are told apart by their keys in order and by look-up. -/
theorem ext_get? {e f : Entries κ ν} (keys : e.keys = f.keys) (found : ∀ k, e.get? k = f.get? k) :
    e = f := by
  refine ext (List.ext_getElem ?_ fun i hi hj => ?_)
  · simpa [Entries.keys] using congrArg List.length keys
  · have key : e.toList[i].1 = f.toList[i].1 := by
      simpa [Entries.keys] using List.getElem_of_eq keys (by simpa [Entries.keys] using hi)
    have left : e.get? e.toList[i].1 = some e.toList[i].2 :=
      get?_eq_some_iff.2 (List.getElem_mem hi)
    have right : f.get? f.toList[i].1 = some f.toList[i].2 :=
      get?_eq_some_iff.2 (List.getElem_mem hj)
    rw [found, key, right] at left
    exact Prod.ext key (Option.some.inj left).symm

/-- All entries come from inserting new keys one after the other. -/
theorem insert_induction {P : Entries κ ν → Prop} (nothing : P ∅)
    (more : ∀ (e : Entries κ ν) k v, k ∉ e.keys → P e → P (e.insert k v)) (e : Entries κ ν) :
    P e := by
  obtain ⟨l, distinct⟩ := e
  induction l using List.reverseRecOn with
  | nil => exact nothing
  | append_singleton l p ih =>
    have parts := distinct
    rw [List.map_append, List.nodup_append] at parts
    obtain ⟨before, -, apart⟩ := parts
    have new : p.1 ∉ (⟨l, before⟩ : Entries κ ν).keys := fun hk => apart _ hk _ (by simp) rfl
    have whole : (⟨l ++ [p], distinct⟩ : Entries κ ν) = insert ⟨l, before⟩ p.1 p.2 :=
      ext (toList_insert_of_notMem new).symm
    rw [whole]
    exact more _ _ _ new (ih before)

theorem insert_insert (e : Entries κ ν) (k : κ) (v w : ν) :
    (e.insert k v).insert k w = e.insert k w := by
  refine ext_get? ?_ fun k' => ?_
  · have known : k ∈ (e.insert k v).keys := mem_keys_iff.2 ⟨v, by simp⟩
    rw [keys_insert, if_pos known, keys_insert, keys_insert]
  · by_cases same : k = k' <;> simp [same]

/-- The pairs of `f` inserted in `e` one after the other. -/
def overwrite (e f : Entries κ ν) : Entries κ ν :=
  f.toList.foldl (fun e p => e.insert p.1 p.2) e

theorem overwrite_insert_of_notMem (e : Entries κ ν) {f : Entries κ ν} {k : κ} {v : ν}
    (new : k ∉ f.keys) : e.overwrite (f.insert k v) = (e.overwrite f).insert k v := by
  rw [overwrite, toList_insert_of_notMem new, List.foldl_append]
  rfl

/-- A key has its new value, or else its old one. -/
@[simp] theorem get?_overwrite (e f : Entries κ ν) (k : κ) :
    (e.overwrite f).get? k = (f.get? k).or (e.get? k) := by
  induction f using insert_induction with
  | nothing => rfl
  | more f k' v new ih =>
    rw [overwrite_insert_of_notMem e new, get?_insert, get?_insert, ih]
    split <;> rfl

/-- The old keys keep their places, and the new ones follow. -/
theorem keys_overwrite (e f : Entries κ ν) :
    (e.overwrite f).keys = e.keys ++ f.keys.filter (· ∉ e.keys) := by
  induction f using insert_induction with
  | nothing => exact (List.append_nil _).symm
  | more f k v new ih =>
    rw [overwrite_insert_of_notMem e new, keys_insert, keys_insert, if_neg new, ih]
    by_cases old : k ∈ e.keys <;> simp [old, new]

theorem overwrite_insert (e f : Entries κ ν) (k : κ) (v : ν) :
    e.overwrite (f.insert k v) = (e.overwrite f).insert k v := by
  refine ext_get? ?_ fun k' => ?_
  · rw [keys_overwrite, keys_insert, keys_insert, keys_overwrite]
    by_cases known : k ∈ f.keys <;> by_cases old : k ∈ e.keys <;> simp [known, old]
  · simp only [get?_overwrite, get?_insert]
    split <;> rfl

theorem ofList_append (l l' : List (κ × ν)) :
    ofList (l ++ l') = (ofList l).overwrite (ofList l') := by
  induction l' using List.reverseRecOn with
  | nil =>
    rw [List.append_nil]
    rfl
  | append_singleton l' p ih =>
    rw [← List.append_assoc, ofList_concat, ofList_concat, overwrite_insert, ih]

/-- Pairs of distinct keys are found in whatever order they are inserted. -/
theorem get?_ofList_of_perm {l l' : List (κ × ν)} (perm : l.Perm l')
    (distinct : (l.map Prod.fst).Nodup) (k : κ) : (ofList l).get? k = (ofList l').get? k := by
  refine get?_eq_of_perm ?_ k
  rwa [toList_ofList distinct, toList_ofList ((perm.map Prod.fst).nodup_iff.1 distinct)]

end Entries

/-! ## Lists without repetition -/

section dedupe

variable {α : Type u} [DecidableEq α]

theorem nodup_foldl_dedupe {l seen : List α} (h : seen.Nodup) :
    (l.foldl (fun seen a => if a ∈ seen then seen else seen ++ [a]) seen).Nodup := by
  induction l generalizing seen with
  | nil => exact h
  | cons a l ih =>
    rw [List.foldl_cons]
    split
    · exact ih h
    · next ha => exact ih (by simpa [List.nodup_append] using ⟨h, fun x hx e => ha (e ▸ hx)⟩)

theorem mem_foldl_dedupe {l seen : List α} {a : α} :
    a ∈ l.foldl (fun seen a => if a ∈ seen then seen else seen ++ [a]) seen ↔
      a ∈ seen ∨ a ∈ l := by
  induction l generalizing seen with
  | nil => simp
  | cons b l ih =>
    rw [List.foldl_cons, ih]
    split
    · next hb => grind
    · grind

theorem nodup_dedupe (l : List α) : (dedupe l).Nodup := nodup_foldl_dedupe List.nodup_nil

@[simp] theorem mem_dedupe {l : List α} {a : α} : a ∈ dedupe l ↔ a ∈ l := by
  rw [dedupe, mem_foldl_dedupe]
  simp

theorem dedupe_concat (l : List α) (a : α) :
    dedupe (l ++ [a]) = if a ∈ dedupe l then dedupe l else dedupe l ++ [a] := by
  rw [dedupe, List.foldl_append]
  rfl

theorem dedupe_of_nodup {l : List α} (h : l.Nodup) : dedupe l = l := by
  induction l using List.reverseRecOn with
  | nil => rfl
  | append_singleton l a ih =>
    obtain ⟨hl, -, new⟩ := List.nodup_append.1 h
    have ha : a ∉ l := fun ha => new a ha a (List.mem_singleton_self a) rfl
    rw [dedupe_concat, ih hl, if_neg ha]

/-- The members of a second list follow as far as they are new. -/
theorem dedupe_append (l l' : List α) :
    dedupe (l ++ l') = dedupe l ++ (dedupe l').filter (· ∉ dedupe l) := by
  induction l' using List.reverseRecOn with
  | nil => simp [dedupe]
  | append_singleton l' a ih =>
    rw [← List.append_assoc, dedupe_concat, dedupe_concat, ih]
    by_cases old : a ∈ l'
    · simp [old]
    · by_cases known : a ∈ l <;> simp [old, known]

/-- Lists may be rid of repetitions before they are put together. -/
theorem dedupe_dedupe_append (l l' : List α) :
    dedupe (dedupe l ++ dedupe l') = dedupe (l ++ l') := by
  rw [dedupe_append, dedupe_append, dedupe_of_nodup (nodup_dedupe l),
    dedupe_of_nodup (nodup_dedupe l')]

theorem dedupe_flatMap_dedupe {β : Type v} (l : List β) (f : β → List α) :
    dedupe (l.flatMap fun b => dedupe (f b)) = dedupe (l.flatMap f) := by
  induction l with
  | nil => rfl
  | cons b l ih =>
    rw [List.flatMap_cons, List.flatMap_cons, ← dedupe_dedupe_append, ih,
      dedupe_of_nodup (nodup_dedupe (f b)), dedupe_dedupe_append]

/-- The members stand in the order of their first places. -/
theorem pairwise_idxOf_dedupe [BEq α] [LawfulBEq α] (l : List α) :
    (dedupe l).Pairwise fun a b => l.idxOf a < l.idxOf b := by
  induction l using List.reverseRecOn with
  | nil => exact List.Pairwise.nil
  | append_singleton l a ih =>
    have kept : (dedupe l).Pairwise fun b c => (l ++ [a]).idxOf b < (l ++ [a]).idxOf c := by
      refine ih.imp_of_mem fun hb hc h => ?_
      rwa [List.idxOf_append_of_mem (mem_dedupe.1 hb), List.idxOf_append_of_mem (mem_dedupe.1 hc)]
    rw [dedupe_concat]
    split
    · exact kept
    · next new =>
      rw [mem_dedupe] at new
      refine List.pairwise_append.2 ⟨kept, List.pairwise_singleton _ _, fun b hb c hc => ?_⟩
      have hb : b ∈ l := mem_dedupe.1 hb
      have place := List.idxOf_lt_length_of_mem hb
      obtain rfl := List.mem_singleton.1 hc
      rw [List.idxOf_append_of_mem hb, List.idxOf_append_of_notMem new]
      omega

end dedupe

end ArchModel
