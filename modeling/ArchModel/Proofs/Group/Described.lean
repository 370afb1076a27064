import ArchModel.Group.Normal
import ArchModel.Proofs.Yaml.Pairs
import Mathlib.Logic.Relation

/-!
# The groups that a value describes

A value describes a level of groups by its pairs: a mapping has its own, a list has those of its
items, one set after the other, and a text has its name alone.

* `Document.groupEntries` are the pairs of a level, and `Document.Describes` are the chains of names
  below it. They are read off the document as it is written.
* `GroupsValue` is what a value has to be for its groups to be read: nothing in it holds itself, and
  its lists have names and mappings as items.
* The keys of a list are those of its items, and its values are given by them
  (`exists_of_mem_groupEntries`, `exists_mem_groupEntries`).
-/

namespace ArchModel.Yaml

namespace Value

/-- Whether a value is no collection. -/
def IsScalar (v : Value) : Prop := v.scalarText?.isSome

end Value

namespace Document

variable {d d' : Document} {v : Value}

/-- A scalar reads the same in every document. -/
theorem text_of_isScalar (h : v.IsScalar) : d.text v = d'.text v := by
  obtain ⟨s, hs⟩ := Option.isSome_iff_exists.1 h
  rw [text, text, hs, Option.getD_some, Option.getD_some]

/-! ## The levels of groups -/

/-- The pairs that an item of a list stands for: a mapping for its own, a name for a group without
subgroups. -/
def itemEntries (d : Document) (item : Value) : List (Value × Value) :=
  match item with
  | .null => []
  | .map id => d.pairs id
  | name => [(.text (d.text name), .null)]

/-- The pairs of a level. In a list the pairs of later items are set in those of earlier ones: a key
stays where it stands first and has the value that it is given last. -/
def groupEntries (d : Document) (v : Value) : List (Value × Value) :=
  match v with
  | .map id => d.pairs id
  | .list id => (d.items id).foldl (fun pairs item => putAll pairs (d.itemEntries item)) []
  | .text s => [(.text s, .null)]
  | _ => []

/-- The chains of names below a value. -/
def Describes (d : Document) : Value → List String → Prop
  | _, [] => True
  | v, name :: rest => ∃ p ∈ d.groupEntries v, d.text p.1 = name ∧ d.Describes p.2 rest

/-- A value stands in another one: in a mapping under a key, or in a list. -/
inductive Holds (d : Document) : Value → Value → Prop
  | map {id : Nat} {key v : Value} (h : (key, v) ∈ d.pairs id) : Holds d (.map id) v
  | list {id : Nat} {v : Value} (h : v ∈ d.items id) : Holds d (.list id) v

end Document

/-- A value whose groups can be read: nothing in it holds itself, the keys of a mapping are scalars
and distinct, and the items of a list are names, nulls and mappings. -/
structure GroupsValue (d : Document) (v : Value) : Prop where
  acyclic : ∀ w, Relation.ReflTransGen d.Holds v w → ¬Relation.TransGen d.Holds w w
  maps : ∀ id, Relation.ReflTransGen d.Holds v (.map id) → ∃ pairs,
    d.collections[id]? = some (.map pairs) ∧ (∀ p ∈ pairs, p.1.IsScalar) ∧
      Document.DistinctKeys pairs
  lists : ∀ id, Relation.ReflTransGen d.Holds v (.list id) → ∃ items,
    d.collections[id]? = some (.list items) ∧
      ∀ item ∈ items, item.IsScalar ∨ ∃ id, item = .map id

namespace GroupsValue

variable {d : Document} {v w : Value} {id : Nat} {p : Value × Value}

theorem of_reach (h : GroupsValue d v) (reach : Relation.ReflTransGen d.Holds v w) :
    GroupsValue d w where
  acyclic x hx := h.acyclic x (reach.trans hx)
  maps id hid := h.maps id (reach.trans hid)
  lists id hid := h.lists id (reach.trans hid)

/-- A mapping or a list of the right form can be read if the values that it holds can. -/
theorem of_holds
    (maps : ∀ id, v = .map id → ∃ pairs, d.collections[id]? = some (.map pairs) ∧
      (∀ p ∈ pairs, p.1.IsScalar) ∧ Document.DistinctKeys pairs)
    (lists : ∀ id, v = .list id → ∃ items, d.collections[id]? = some (.list items) ∧
      ∀ item ∈ items, item.IsScalar ∨ ∃ id, item = .map id)
    (below : ∀ w, d.Holds v w → GroupsValue d w) : GroupsValue d v := by
  refine ⟨fun w reach cycle => ?_, fun id reach => ?_, fun id reach => ?_⟩ <;>
    rcases Relation.ReflTransGen.cases_head reach with same | ⟨x, first, rest⟩
  · subst same
    obtain ⟨x, first, back⟩ := Relation.TransGen.head'_iff.1 cycle
    exact (below x first).acyclic v back cycle
  · exact (below x first).acyclic w rest cycle
  · exact maps id same
  · exact (below x first).maps id rest
  · exact lists id same
  · exact (below x first).lists id rest

theorem of_isScalar (h : v.IsScalar) : GroupsValue d v := by
  refine of_holds ?_ ?_ ?_
  · rintro id rfl
    exact absurd h Bool.false_ne_true
  · rintro id rfl
    exact absurd h Bool.false_ne_true
  · rintro w (_ | _) <;> exact absurd h Bool.false_ne_true

theorem of_map {pairs : List (Value × Value)} (found : d.collections[id]? = some (.map pairs))
    (scalars : ∀ p ∈ pairs, p.1.IsScalar) (distinct : Document.DistinctKeys pairs)
    (below : ∀ p ∈ pairs, GroupsValue d p.2) : GroupsValue d (.map id) := by
  refine of_holds ?_ (by simp) ?_
  · rintro _ ⟨⟩
    exact ⟨pairs, found, scalars, distinct⟩
  · rintro w (listed | _)
    rw [Document.pairs, found] at listed
    exact below _ listed

theorem of_list {items : List Value} (found : d.collections[id]? = some (.list items))
    (each : ∀ item ∈ items, (item.IsScalar ∨ ∃ id, item = .map id) ∧ GroupsValue d item) :
    GroupsValue d (.list id) := by
  refine of_holds (by simp) ?_ ?_
  · rintro _ ⟨⟩
    exact ⟨items, found, fun item hi => (each item hi).1⟩
  · rintro w (_ | listed)
    rw [Document.items, found] at listed
    exact (each w listed).2

theorem null (d : Document) : GroupsValue d .null := of_isScalar rfl

end GroupsValue

/-- The keys of a level are scalars, and its values are values whose groups can be read. -/
def Document.Readable (d : Document) (pairs : List (Value × Value)) : Prop :=
  ∀ p ∈ pairs, p.1.IsScalar ∧ GroupsValue d p.2

namespace GroupsValue

open Document

variable {d : Document} {v : Value}

theorem readable_pairs {id : Nat} (h : GroupsValue d (.map id)) : d.Readable (d.pairs id) := by
  obtain ⟨pairs, found, scalars, -⟩ := h.maps id .refl
  have written : d.pairs id = pairs := by rw [Document.pairs, found]
  exact fun p hp => ⟨scalars p (written ▸ hp), h.of_reach (.single (.map hp))⟩

theorem readable_itemEntries {item : Value} (h : GroupsValue d item) :
    d.Readable (d.itemEntries item) := by
  unfold itemEntries
  split
  · simp [Readable]
  · exact h.readable_pairs
  · simpa [Readable, Value.IsScalar, Value.scalarText?] using null d

theorem readable_groupEntries (h : GroupsValue d v) : d.Readable (d.groupEntries v) := by
  unfold groupEntries
  split
  · exact h.readable_pairs
  · next id =>
    have run : ∀ (items : List Value) (pairs : List (Value × Value)),
        (∀ item ∈ items, GroupsValue d item) → d.Readable pairs →
          d.Readable (items.foldl (fun pairs item => putAll pairs (d.itemEntries item)) pairs) := by
      intro items
      induction items with
      | nil => exact fun _ _ h => h
      | cons item items ih =>
        intro pairs each h
        obtain ⟨first, rest⟩ := List.forall_mem_cons.1 each
        exact ih _ rest (forall_mem_putAll h first.readable_itemEntries)
    exact run (d.items id) [] (fun item hi => h.of_reach (.single (.list hi))) (by simp [Readable])
  · simpa [Readable, Value.IsScalar, Value.scalarText?] using null d
  · simp [Readable]

end GroupsValue

namespace Document

variable {d : Document} {v w : Value} {id : Nat}

/-! ## The pairs of a list -/

theorem groupEntries_list : d.groupEntries (.list id) =
    putAll [] ((d.items id).flatMap d.itemEntries) := by
  rw [groupEntries, putAll, List.foldl_flatMap]
  rfl

/-- A pair of a list has the key of a pair of one of its items and the value of a pair of one. -/
theorem exists_of_mem_groupEntries {p : Value × Value} (hp : p ∈ d.groupEntries (.list id)) :
    (∃ item ∈ d.items id, ∃ e ∈ d.itemEntries item, e.1 = p.1) ∧
      ∃ item ∈ d.items id, ∃ e ∈ d.itemEntries item, e.2 = p.2 ∧ p.1.sameKey e.1 := by
  rw [groupEntries_list] at hp
  obtain ⟨⟨e, he, key⟩, f, hf, value, same⟩ := mem_putAll_nil hp
  obtain ⟨a, ha, he⟩ := List.mem_flatMap.1 he
  obtain ⟨b, hb, hf⟩ := List.mem_flatMap.1 hf
  exact ⟨⟨a, ha, e, he, key⟩, b, hb, f, hf, value, same⟩

/-- The keys of the items of a list are keys of the list. -/
theorem exists_mem_groupEntries {item : Value} (hi : item ∈ d.items id) {e : Value × Value}
    (he : e ∈ d.itemEntries item) : ∃ p ∈ d.groupEntries (.list id), p.1.sameKey e.1 := by
  rw [groupEntries_list]
  exact exists_mem_putAll_nil (List.mem_flatMap.2 ⟨item, hi, he⟩)

/-! ## Lists of other items -/

/-- The document with one list more. -/
def withList (d : Document) (items : List Value) : Document :=
  { d with collections := d.collections.push (.list items) }

section withList

variable {items : List Value}

theorem getElem?_withList_self :
    (d.withList items).collections[d.collections.size]? = some (.list items) := by
  rw [withList, Array.getElem?_push, if_pos rfl]

theorem items_withList_self : (d.withList items).items d.collections.size = items := by
  rw [Document.items, getElem?_withList_self]

theorem getElem?_withList (inside : id < d.collections.size) :
    (d.withList items).collections[id]? = d.collections[id]? := by
  rw [withList, Array.getElem?_push, if_neg (Nat.ne_of_lt inside)]

theorem pairs_withList (inside : id < d.collections.size) :
    (d.withList items).pairs id = d.pairs id := by
  rw [pairs, pairs, getElem?_withList inside]

theorem items_withList (inside : id < d.collections.size) :
    (d.withList items).items id = d.items id := by
  rw [Document.items, Document.items, getElem?_withList inside]

end withList

end Document

namespace GroupsValue

variable {d : Document} {v w : Value} {id : Nat} {items : List Value}

theorem lt_of_map (h : GroupsValue d (.map id)) : id < d.collections.size := by
  obtain ⟨pairs, found, -⟩ := h.maps id .refl
  exact (Array.getElem?_eq_some_iff.1 found).1

theorem lt_of_list (h : GroupsValue d (.list id)) : id < d.collections.size := by
  obtain ⟨items, found, -⟩ := h.lists id .refl
  exact (Array.getElem?_eq_some_iff.1 found).1

/-- A value holds the same where there is one list more. -/
theorem holds_withList_iff (h : GroupsValue d v) :
    (d.withList items).Holds v w ↔ d.Holds v w := by
  constructor
  · rintro (listed | listed)
    · exact .map (by rwa [Document.pairs_withList h.lt_of_map] at listed)
    · exact .list (by rwa [Document.items_withList h.lt_of_list] at listed)
  · rintro (listed | listed)
    · exact .map (by rwa [Document.pairs_withList h.lt_of_map])
    · exact .list (by rwa [Document.items_withList h.lt_of_list])

theorem reach_of_withList (h : GroupsValue d v)
    (reach : Relation.ReflTransGen (d.withList items).Holds v w) :
    Relation.ReflTransGen d.Holds v w := by
  induction reach with
  | refl => exact .refl
  | tail _ last ih => exact ih.tail ((h.of_reach ih).holds_withList_iff.1 last)

theorem withList (h : GroupsValue d v) (items : List Value) : GroupsValue (d.withList items) v where
  acyclic w reach cycle := by
    have before := h.reach_of_withList reach
    have same : Relation.TransGen d.Holds w w := by
      obtain ⟨x, first, back⟩ := Relation.TransGen.head'_iff.1 cycle
      have first := (h.of_reach before).holds_withList_iff.1 first
      have there := (h.of_reach before).of_reach (.single first)
      exact Relation.TransGen.head' first (there.reach_of_withList back)
    exact h.acyclic w before same
  maps id reach := by
    have before := h.reach_of_withList reach
    rw [Document.getElem?_withList (h.of_reach before).lt_of_map]
    exact h.maps id before
  lists id reach := by
    have before := h.reach_of_withList reach
    rw [Document.getElem?_withList (h.of_reach before).lt_of_list]
    exact h.lists id before

/-- A list of names and of mappings whose groups can be read. -/
theorem list_withList (each : ∀ item ∈ items,
    (item.IsScalar ∨ ∃ id, item = .map id) ∧ GroupsValue d item) :
    GroupsValue (d.withList items) (.list d.collections.size) :=
  of_list Document.getElem?_withList_self fun item hi =>
    ⟨(each item hi).1, (each item hi).2.withList items⟩

end GroupsValue

namespace Document

variable {d : Document} {v : Value} {id : Nat} {items : List Value}

theorem itemEntries_withList {item : Value} (h : GroupsValue d item)
    (kind : item.IsScalar ∨ ∃ id, item = .map id) :
    (d.withList items).itemEntries item = d.itemEntries item := by
  rcases kind with name | ⟨id, rfl⟩
  · have reads : (d.withList items).text item = d.text item := text_of_isScalar name
    unfold itemEntries
    split
    · rfl
    · exact absurd name Bool.false_ne_true
    · rw [reads]
  · exact pairs_withList h.lt_of_map

theorem groupEntries_withList (h : GroupsValue d v) :
    (d.withList items).groupEntries v = d.groupEntries v := by
  unfold groupEntries
  split
  · exact pairs_withList h.lt_of_map
  · next id =>
    obtain ⟨own, found, kinds⟩ := h.lists id .refl
    have own_eq : d.items id = own := by rw [Document.items, found]
    rw [items_withList h.lt_of_list]
    refine List.foldl_ext _ _ _ fun pairs item hi => ?_
    rw [itemEntries_withList (h.of_reach (.single (.list hi))) (kinds item (own_eq ▸ hi))]
  · rfl
  · rfl

/-- A value describes the same chains where there is one list more. -/
theorem describes_withList_iff (h : GroupsValue d v) (names : List String) :
    (d.withList items).Describes v names ↔ d.Describes v names := by
  induction names generalizing v with
  | nil => exact iff_of_true trivial trivial
  | cons name rest ih =>
    rw [Describes, Describes, groupEntries_withList h]
    refine exists_congr fun p => and_congr_right fun hp => ?_
    obtain ⟨scalar, below⟩ := h.readable_groupEntries p hp
    rw [ih below, text_of_isScalar scalar]

end Document

end ArchModel.Yaml
