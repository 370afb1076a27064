import ArchModel.Proofs.Except
import ArchModel.Proofs.Group.Described
import Mathlib.Data.List.Perm.Subperm

/-!
# What keeps values from being written and groups from being checked

Any value may stand where a name is expected, and its text is taken. Two things keep it from being
written.

* An integer with too many digits has no text. `Document.IsShort` says that there is none.
* Each collection around a part of a value takes a call. No collection counts twice, and an empty
  one has no parts, so there are at most as many as `Document.filled` lists.

`Limit.Due` says of a limit that one of these is its reason. Every limit is due that writing a value
meets (`due_writeLimit?`), or checking groups (`Groups.due_checkLimit?`).
-/

namespace ArchModel

namespace Yaml

/-- A value is no integer of too many digits. -/
def Value.IsShort : Value → Prop
  | .int n => n.natAbs < Nat.pow 10 mostDigits
  | _ => True

/-- No integer in a collection has too many digits. -/
def Collection.IsShort : Collection → Prop
  | .list items => ∀ v ∈ items, v.IsShort
  | .map pairs => ∀ p ∈ pairs, p.1.IsShort ∧ p.2.IsShort

/-- No integer in the collections of a document has too many digits. -/
def Document.IsShort (d : Document) : Prop := ∀ c ∈ d.collections, c.IsShort

/-- A limit has a reason: not all integers are short, or the calls are few. -/
def Limit.Due (short few : Prop) : Limit → Prop
  | .digits => ¬short
  | .calls => few

theorem Limit.Due.mono {l : Limit} {short short' few few' : Prop} (h : l.Due short few)
    (hs : short' → short) (hf : few → few') : l.Due short' few' :=
  match l with
  | .digits => fun all => h (hs all)
  | .calls => hf h

namespace Document

/-- The collections that are not empty. -/
def filled (d : Document) : List Nat :=
  (List.range d.collections.size).filter fun id => !(d.items id).isEmpty || !(d.pairs id).isEmpty

variable {d : Document} {v w : Value} {around : List Nat} {calls id : Nat} {l : Limit}

theorem IsShort.items (short : d.IsShort) (id : Nat) : ∀ v ∈ d.items id, v.IsShort := by
  intro v hv
  obtain ⟨items, listed, hv⟩ := exists_list_of_mem_items hv
  exact short _ listed v hv

theorem IsShort.pairs (short : d.IsShort) (id : Nat) :
    ∀ p ∈ d.pairs id, p.1.IsShort ∧ p.2.IsShort := by
  intro p hp
  obtain ⟨pairs, listed, hp⟩ := exists_map_of_mem_pairs hp
  exact short _ listed p hp

/-! ## Collections that are not empty -/

theorem mem_filled_iff : id ∈ d.filled ↔ d.items id ≠ [] ∨ d.pairs id ≠ [] := by
  have inside (given : d.items id ≠ [] ∨ d.pairs id ≠ []) : id < d.collections.size := by
    by_contra beyond
    have none : d.collections[id]? = none := Array.getElem?_eq_none (Nat.le_of_not_lt beyond)
    simp [Document.items, Document.pairs, none] at given
  rw [filled, List.mem_filter, List.mem_range]
  simpa using inside

theorem mem_filled_congr {d' : Document} (same : d'.collections[id]? = d.collections[id]?) :
    id ∈ d'.filled ↔ id ∈ d.filled := by
  rw [mem_filled_iff, mem_filled_iff, items_congr same, pairs_congr same]

/-- A mapping is no list. -/
theorem items_eq_nil (given : d.pairs id ≠ []) : d.items id = [] := by
  cases found : d.collections[id]? with
  | none => rw [Document.items, found]
  | some c =>
    cases c with
    | list items => exact absurd (by rw [Document.pairs, found]) given
    | map pairs => rw [Document.items, found]

theorem lt_of_mem_filled (hid : id ∈ d.filled) : id < d.collections.size :=
  List.mem_range.1 (List.mem_filter.1 hid).1

theorem mem_filled_of_item (hv : v ∈ d.items id) : id ∈ d.filled :=
  mem_filled_iff.2 (.inl (List.ne_nil_of_mem hv))

theorem mem_filled_of_pair {p : Value × Value} (hp : p ∈ d.pairs id) : id ∈ d.filled :=
  mem_filled_iff.2 (.inr (List.ne_nil_of_mem hp))

theorem length_le_filled (distinct : around.Nodup) (inside : around ⊆ d.filled) :
    around.length ≤ d.filled.length := (distinct.subperm inside).length_le

theorem length_filled_mono {d' : Document} (more : d.filled ⊆ d'.filled) :
    d.filled.length ≤ d'.filled.length :=
  length_le_filled (List.nodup_range.filter _) more

/-! ## Writing values -/

/-- What keeps a part of a value from being written keeps the value from it. -/
theorem due_of_part (short : d.IsShort → w.IsShort)
    (part : l.Due (d.IsShort ∧ w.IsShort) (calls + (id :: around).length < d.filled.length + 2)) :
    l.Due (d.IsShort ∧ v.IsShort) (calls + 1 + around.length < d.filled.length + 2) := by
  refine part.mono (fun h => ⟨h.1, short h.1⟩) fun few => ?_
  rw [List.length_cons] at few
  omega

/-- With each collection around a value there is one less that can be within it. -/
theorem due_writeLimit? (distinct : around.Nodup) (inside : around ⊆ d.filled)
    (h : d.writeLimit? around calls v = some l) :
    l.Due (d.IsShort ∧ v.IsShort) (calls + around.length < d.filled.length + 2) := by
  induction calls generalizing around v with
  | zero =>
    cases h
    have length := length_le_filled distinct inside
    show 0 + around.length < _
    omega
  | succ calls ih =>
    have part {id : Nat} {w : Value} (off : ¬around.contains id) (some : id ∈ d.filled)
        (short : d.IsShort → w.IsShort) (h : d.writeLimit? (id :: around) calls w = .some l) :
        l.Due (d.IsShort ∧ v.IsShort) (calls + 1 + around.length < d.filled.length + 2) :=
      due_of_part short (ih (List.nodup_cons.2 ⟨by simpa using off, distinct⟩)
        (List.cons_subset.2 ⟨some, inside⟩) h)
    cases v with
    | int n =>
      rw [writeLimit?] at h
      split at h
      · cases h
      · next long =>
        cases h
        exact fun short => long short.2
    | list id | keySet id | couple id =>
      rw [writeLimit?] at h
      split at h
      · cases h
      · next off =>
        obtain ⟨w, hw, limit⟩ := List.exists_of_findSome?_eq_some h
        exact part off (mem_filled_of_item hw) (fun short => short.items id w hw) limit
    | map id =>
      rw [writeLimit?] at h
      split at h
      · cases h
      · next off =>
        obtain ⟨p, hp, limit⟩ := List.exists_of_findSome?_eq_some h
        have short (short : d.IsShort) := short.pairs id p hp
        rcases Option.or_eq_some_iff.1 limit with key | ⟨-, value⟩
        · exact part off (mem_filled_of_pair hp) (fun h => (short h).1) key
        · exact part off (mem_filled_of_pair hp) (fun h => (short h).2) value
    | _ => cases h

/-- A value is written by its text, or a limit is met. -/
theorem meets_text? (hv : d.IsShort → v.IsShort) :
    Meets (fun l => l.Due d.IsShort (calls < d.filled.length + 2)) (fun s => s = d.text v)
      (d.text? calls v) := by
  rw [text?]
  split
  · next limit =>
    have due := due_writeLimit? List.nodup_nil (List.nil_subset _) limit
    exact due.mono (fun short => ⟨short, hv short⟩) id
  · rfl

end Document

end Yaml

/-! ## Checking groups -/

open Yaml

/-- The groups within one another are at most the collections that are not empty, and so are the
collections around a part of a name. -/
theorem Groups.due_checkLimit? {d : Document} {path : List String} {around : List Nat}
    {calls id : Nat} {l : Limit} (distinct : around.Nodup) (inside : around ⊆ d.filled)
    (h : checkLimit? d path around calls id = some l) :
    l.Due d.IsShort (calls + around.length < 2 * d.filled.length + 2) := by
  induction calls generalizing around path id with
  | zero =>
    cases h
    have length := Document.length_le_filled distinct inside
    show 0 + around.length < _
    omega
  | succ calls ih =>
    rw [checkLimit?] at h
    split at h
    · cases h
    · next off =>
      obtain ⟨⟨k, v⟩, hp, limit⟩ := List.exists_of_findSome?_eq_some h
      have distinct' : (id :: around).Nodup := List.nodup_cons.2 ⟨by simpa using off, distinct⟩
      have inside' : id :: around ⊆ d.filled :=
        List.cons_subset.2 ⟨Document.mem_filled_of_pair hp, inside⟩
      have length := Document.length_le_filled distinct' inside'
      rw [List.length_cons] at length
      dsimp only at limit
      split at limit
      · next l' fault =>
        cases limit
        have due := (Document.meets_text? fun short => (short.pairs id _ hp).1).fault fault
        exact due.mono (fun short => short) fun few => by omega
      · next below named =>
        split at limit
        · cases limit
        · exact (ih distinct' inside' limit).mono (fun short => short) fun few => by
            rw [List.length_cons] at few
            omega
      · cases limit

end ArchModel
