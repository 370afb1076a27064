import ArchModel.Yaml.Value
import Mathlib.Data.List.Basic
import Mathlib.Data.List.Induction

/-!
# The pairs of a mapping

* Items and pairs stand in collections of the document (`exists_list_of_mem_items`,
  `exists_map_of_mem_pairs`).
* `Document.put` sets a key: a pair was there before, or it has the value that was set (`mem_put`),
  and no key is lost (`exists_mem_put_of_mem`).
* `putAll` sets several keys, one after the other. What comes out has the keys and the values that
  are set (`mem_putAll_nil`, `exists_mem_putAll_nil`).
* What holds of all keys and of all values holds of those that are set, too
  (`forall_mem_putAll`).
-/

namespace ArchModel.Yaml

namespace Value

@[simp] theorem sameKey_self (v : Value) : v.sameKey v = true := by
  unfold sameKey
  split
  · next m n hm hn => simp_all
  · split
    · next m n hm hn => simp_all
    · simp
  · next h h' =>
    cases hv : v.integer? with
    | none => exact absurd hv (h' hv)
    | some m => exact absurd hv (h m m hv)

theorem sameKey_comm (v w : Value) : v.sameKey w = w.sameKey v := by
  unfold sameKey
  cases v.integer? <;> cases w.integer? <;> simp [Bool.beq_comm]
  cases v.instant? <;> cases w.instant? <;> simp [Bool.beq_comm]

end Value

namespace Document

variable {d d' : Document} {v : Value} {id : Nat} {pairs more : List (Value × Value)} {key : Value}

/-! ## The members of collections -/

theorem exists_list_of_mem_items (hv : v ∈ d.items id) :
    ∃ items, .list items ∈ d.collections ∧ v ∈ items := by
  unfold Document.items at hv
  split at hv
  · next items found => exact ⟨items, Array.mem_of_getElem? found, hv⟩
  · cases hv

theorem exists_map_of_mem_pairs {p : Value × Value} (hp : p ∈ d.pairs id) :
    ∃ pairs, .map pairs ∈ d.collections ∧ p ∈ pairs := by
  unfold Document.pairs at hp
  split at hp
  · next pairs found => exact ⟨pairs, Array.mem_of_getElem? found, hp⟩
  · cases hp

theorem items_congr (same : d'.collections[id]? = d.collections[id]?) :
    d'.items id = d.items id := by
  rw [items, items, same]

theorem pairs_congr (same : d'.collections[id]? = d.collections[id]?) :
    d'.pairs id = d.pairs id := by
  rw [Document.pairs, Document.pairs, same]

/-! ## Setting pairs -/

/-- A key that is present gets its value where it stands. -/
theorem put_of_known (h : ∀ p ∈ pairs, p.1.sameKey key = false) (old value : Value) :
    put key value (pairs ++ (key, old) :: more) = pairs ++ (key, value) :: more := by
  induction pairs with
  | nil => rw [List.nil_append, put, if_pos (Value.sameKey_self key), List.nil_append]
  | cons p pairs ih =>
    obtain ⟨other, h⟩ := List.forall_mem_cons.1 h
    rw [List.cons_append, put, if_neg (by simp [other]), ih h, List.cons_append]

/-- Pairs with other ones set in them. -/
def putAll (pairs more : List (Value × Value)) : List (Value × Value) :=
  more.foldl (fun pairs p => put p.1 p.2 pairs) pairs

/-- No two pairs have one key. -/
def DistinctKeys (pairs : List (Value × Value)) : Prop :=
  pairs.Pairwise fun p q => p.1.sameKey q.1 = false

/-- Setting a pair keeps the keys there are. -/
theorem exists_mem_put_of_mem {p : Value × Value} (hp : p ∈ pairs) (value : Value) :
    ∃ q ∈ put key value pairs, q.1 = p.1 := by
  induction pairs with
  | nil => cases hp
  | cons first pairs ih =>
    rw [put]
    split
    · rcases List.mem_cons.1 hp with rfl | later
      · exact ⟨_, List.mem_cons_self, rfl⟩
      · exact ⟨p, List.mem_cons_of_mem _ later, rfl⟩
    · rcases List.mem_cons.1 hp with rfl | later
      · exact ⟨_, List.mem_cons_self, rfl⟩
      · obtain ⟨q, hq, same⟩ := ih later
        exact ⟨q, List.mem_cons_of_mem _ hq, same⟩

/-- The key that is set is there. -/
theorem exists_mem_put (key value : Value) (pairs : List (Value × Value)) :
    ∃ q ∈ put key value pairs, q.1.sameKey key := by
  induction pairs with
  | nil => exact ⟨_, List.mem_cons_self, Value.sameKey_self key⟩
  | cons first pairs ih =>
    rw [put]
    split
    · next same => exact ⟨_, List.mem_cons_self, same⟩
    · obtain ⟨q, hq, same⟩ := ih
      exact ⟨q, List.mem_cons_of_mem _ hq, same⟩

/-- A pair was there before, or it has the value that was set, under the key that was first. -/
theorem mem_put {value : Value} {q : Value × Value} (hq : q ∈ put key value pairs) : q ∈ pairs ∨
    q.2 = value ∧ q.1.sameKey key ∧ (q.1 = key ∨ ∃ p ∈ pairs, p.1 = q.1) := by
  induction pairs with
  | nil =>
    obtain rfl := List.mem_singleton.1 hq
    exact .inr ⟨rfl, Value.sameKey_self key, .inl rfl⟩
  | cons first pairs ih =>
    rw [put] at hq
    split at hq
    · next same =>
      rcases List.mem_cons.1 hq with rfl | later
      · exact .inr ⟨rfl, same, .inr ⟨_, List.mem_cons_self, rfl⟩⟩
      · exact .inl (List.mem_cons_of_mem _ later)
    · rcases List.mem_cons.1 hq with rfl | later
      · exact .inl List.mem_cons_self
      · rcases ih later with before | ⟨given, same, first⟩
        · exact .inl (List.mem_cons_of_mem _ before)
        · refine .inr ⟨given, same, first.imp_right ?_⟩
          rintro ⟨p, hp, at_p⟩
          exact ⟨p, List.mem_cons_of_mem _ hp, at_p⟩

theorem putAll_snoc (p : Value × Value) :
    putAll pairs (more ++ [p]) = put p.1 p.2 (putAll pairs more) := List.foldl_append

theorem mem_putAll_nil {q : Value × Value} (hq : q ∈ putAll [] more) :
    (∃ e ∈ more, e.1 = q.1) ∧ ∃ e ∈ more, e.2 = q.2 ∧ q.1.sameKey e.1 := by
  induction more using List.reverseRecOn generalizing q with
  | nil => cases hq
  | append_singleton more p ih =>
    have kept {P : Value × Value → Prop} (found : ∃ e ∈ more, P e) : ∃ e ∈ more ++ [p], P e :=
      found.imp fun e he => ⟨List.mem_append_left _ he.1, he.2⟩
    rw [putAll_snoc] at hq
    have last : p ∈ more ++ [p] := List.mem_concat_self
    rcases mem_put hq with before | ⟨given, same, written⟩
    · exact (ih before).imp kept kept
    · refine ⟨?_, p, last, given.symm, same⟩
      rcases written with own | ⟨first, there, at_q⟩
      · exact ⟨p, last, own.symm⟩
      · rw [← at_q]
        exact kept (ih there).1

theorem exists_mem_putAll_nil {e : Value × Value} (he : e ∈ more) :
    ∃ q ∈ putAll [] more, q.1.sameKey e.1 := by
  induction more using List.reverseRecOn with
  | nil => cases he
  | append_singleton more p ih =>
    rw [putAll_snoc]
    rcases List.mem_append.1 he with before | last
    · obtain ⟨q, hq, same⟩ := ih before
      obtain ⟨q', hq', kept⟩ := exists_mem_put_of_mem hq p.2
      exact ⟨q', hq', by rwa [kept]⟩
    · obtain rfl := List.mem_singleton.1 last
      exact exists_mem_put e.1 e.2 _

variable {K V : Value → Prop}

theorem forall_mem_putAll (h : ∀ p ∈ pairs, K p.1 ∧ V p.2) (h' : ∀ p ∈ more, K p.1 ∧ V p.2) :
    ∀ p ∈ putAll pairs more, K p.1 ∧ V p.2 := by
  induction more generalizing pairs with
  | nil => exact h
  | cons p more ih =>
    obtain ⟨first, rest⟩ := List.forall_mem_cons.1 h'
    rw [putAll, List.foldl_cons]
    exact ih (forall_mem_put h first.1 first.2) rest

end Document

end ArchModel.Yaml
