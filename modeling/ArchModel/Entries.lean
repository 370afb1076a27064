/-!
# Entries in order

Finite maps that keep the place in which a key was first inserted. `Entries` is a list of pairs
with distinct keys.

* `insert` replaces the value of a key that is present, at its place, and appends a new key
  (`get?_insert`, `keys_insert`).
* `insertIfNew` leaves a key that is present alone.
* `ofList` inserts the pairs of a list one after the other.
-/

namespace ArchModel

/-- Pairs of keys and values in the order of first insertion. -/
structure Entries (κ : Type u) (ν : Type v) where
  /-- The pairs in order. -/
  toList : List (κ × ν)
  /-- No key occurs twice. -/
  nodup_keys : (toList.map Prod.fst).Nodup

namespace Entries

variable {κ : Type u} {ν : Type v}

/-- No entries. -/
def empty : Entries κ ν := ⟨[], by simp⟩

instance : EmptyCollection (Entries κ ν) := ⟨empty⟩

instance : Inhabited (Entries κ ν) := ⟨empty⟩

@[ext] theorem ext {e f : Entries κ ν} (h : e.toList = f.toList) : e = f := by
  cases e; cases f; cases h; rfl

instance [DecidableEq κ] [DecidableEq ν] : DecidableEq (Entries κ ν) := fun e f =>
  decidable_of_iff (e.toList = f.toList) ⟨ext, fun h => h ▸ rfl⟩

instance [Repr κ] [Repr ν] : Repr (Entries κ ν) := ⟨fun e n => reprPrec e.toList n⟩

/-- The keys in order. -/
def keys (e : Entries κ ν) : List κ := e.toList.map Prod.fst

/-- The values in order. -/
def values (e : Entries κ ν) : List ν := e.toList.map Prod.snd

/-- The number of entries. -/
def size (e : Entries κ ν) : Nat := e.toList.length

/-- Whether there is no entry. -/
def isEmpty (e : Entries κ ν) : Bool := e.toList.isEmpty

section lookup

variable [DecidableEq κ]

/-- The value of a key in a list of pairs. -/
def find (k : κ) : List (κ × ν) → Option ν
  | [] => none
  | (k', v) :: l => if k' = k then some v else find k l

/-- The value of a key. -/
def get? (e : Entries κ ν) (k : κ) : Option ν := find k e.toList

/-- Whether a key is present. -/
def contains (e : Entries κ ν) (k : κ) : Bool := (e.get? k).isSome

/-- The pairs with the value of `k` replaced at its place, or `k` appended. -/
def put (k : κ) (v : ν) : List (κ × ν) → List (κ × ν)
  | [] => [(k, v)]
  | (k', v') :: l => if k' = k then (k', v) :: l else (k', v') :: put k v l

theorem keys_put (k : κ) (v : ν) (l : List (κ × ν)) :
    (put k v l).map Prod.fst =
      if k ∈ l.map Prod.fst then l.map Prod.fst else l.map Prod.fst ++ [k] := by
  induction l with
  | nil => simp [put]
  | cons p l ih =>
    obtain ⟨k', v'⟩ := p
    by_cases h : k' = k
    · simp [put, h]
    · have h' : k ≠ k' := fun e => h e.symm
      by_cases hm : k ∈ l.map Prod.fst <;> simp_all [put]

theorem nodup_keys_put (k : κ) (v : ν) {l : List (κ × ν)} (h : (l.map Prod.fst).Nodup) :
    ((put k v l).map Prod.fst).Nodup := by
  rw [keys_put]
  split
  · exact h
  · next hk => exact List.nodup_append.2 ⟨h, by simp, by simpa using fun a x ha e => hk (by
      subst e; exact List.mem_map.2 ⟨_, ha, rfl⟩)⟩

theorem find_put (k k' : κ) (v : ν) (l : List (κ × ν)) :
    find k' (put k v l) = if k = k' then some v else find k' l := by
  induction l with
  | nil => simp [put, find]
  | cons p l ih =>
    obtain ⟨a, b⟩ := p
    by_cases ha : a = k
    · subst ha; by_cases hk : a = k' <;> simp [put, find, hk]
    · by_cases hk : a = k'
      · subst hk
        have h : k ≠ a := fun e => ha e.symm
        simp [put, find, ha, h]
      · simp [put, find, ha, hk, ih]

/-- The value of a key set: at its place when it is present, else at the end. -/
def insert (e : Entries κ ν) (k : κ) (v : ν) : Entries κ ν :=
  ⟨put k v e.toList, nodup_keys_put k v e.nodup_keys⟩

/-- The value of a key set unless the key is present. -/
def insertIfNew (e : Entries κ ν) (k : κ) (v : ν) : Entries κ ν :=
  if e.contains k then e else e.insert k v

/-- The pairs of a list inserted one after the other. -/
def ofList (l : List (κ × ν)) : Entries κ ν := l.foldl (fun e p => e.insert p.1 p.2) empty

@[simp] theorem get?_insert (e : Entries κ ν) (k k' : κ) (v : ν) :
    (e.insert k v).get? k' = if k = k' then some v else e.get? k' :=
  find_put k k' v e.toList

theorem keys_insert (e : Entries κ ν) (k : κ) (v : ν) :
    (e.insert k v).keys = if k ∈ e.keys then e.keys else e.keys ++ [k] :=
  keys_put k v e.toList

end lookup

/-- The values changed by a function. -/
def mapValues {μ : Type w} (f : ν → μ) (e : Entries κ ν) : Entries κ μ :=
  ⟨e.toList.map fun (k, v) => (k, f v), by
    have h : (e.toList.map fun (k, v) => (k, f v)).map Prod.fst = e.toList.map Prod.fst := by
      simp [Function.comp_def]
    exact h ▸ e.nodup_keys⟩

end Entries

/-- The members of a list without repetition, each at its first place. -/
def dedupe {α : Type u} [DecidableEq α] (l : List α) : List α :=
  l.foldl (fun seen a => if a ∈ seen then seen else seen ++ [a]) []

end ArchModel
