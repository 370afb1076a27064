import ArchModel.Proofs.Group.Described
import Mathlib.Data.List.Perm.Subperm

/-!
# Normalizing groups

Mappings are normalized in place while others refer to them, so a value is followed through a
document that changes.

* `Settled` mappings do not change any more: those that were entered and left again, and new ones.
  `Stands` says that a normalized value stands for a value of the original document by way of
  settled mappings. It then describes the same chains of names (`Stands.describes_iff`) and holds
  nothing that holds itself (`Stands.acyclic`).
* `State` holds while a value is normalized, where the mappings of a trail are not left yet, and
  `Later` says what a step leaves as it is.
* **`normalize_spec`**: a value is normalized to one that stands for it, and what stands for others
  goes on to do so.
-/

namespace ArchModel.GroupNormalizer

open Yaml

/-! ## Values that stand for others -/

/-- The mappings that do not change any more: those that were entered and are not on the trail, and
those that the original document does not have. -/
def Settled (d₀ : Document) (trail : List Nat) (r : GroupNormalizer) (id : Nat) : Prop :=
  id ∈ r.entered ∧ id ∉ trail ∨
    d₀.collections.size ≤ id ∧ id < r.document.collections.size

/-- A mapping stands for a value of the original document: its keys are those of the level that the
value describes, and its values stand for the values there. -/
inductive Stands (d₀ d : Document) (settled : Nat → Prop) : Value → Value → Prop
  | intro {id : Nat} {v : Value} (own : settled id)
      (length : (d.pairs id).length = (d₀.groupEntries v).length)
      (keys : ∀ x ∈ (d.pairs id).zip (d₀.groupEntries v), x.1.1 = x.2.1 ∧ x.2.1.IsScalar)
      (below : ∀ x ∈ (d.pairs id).zip (d₀.groupEntries v), Stands d₀ d settled x.1.2 x.2.2) :
      Stands d₀ d settled (.map id) v

/-- Pairs that stand for pairs of the original document, one for one. -/
def Alike (d₀ d : Document) (settled : Nat → Prop) :
    List (Value × Value) → List (Value × Value) → Prop :=
  List.Forall₂ fun p e => p.1 = e.1 ∧ e.1.IsScalar ∧ Stands d₀ d settled p.2 e.2

variable {d₀ d d' : Document} {settled settled' : Nat → Prop} {v v' : Value} {id : Nat}
  {pairs entries : List (Value × Value)}

theorem stands_map_iff : Stands d₀ d settled (.map id) v ↔
    settled id ∧ Alike d₀ d settled (d.pairs id) (d₀.groupEntries v) := by
  rw [Alike, List.forall₂_iff_zip]
  constructor
  · rintro ⟨own, length, keys, below⟩
    exact ⟨own, length, fun hx => ⟨(keys _ hx).1, (keys _ hx).2, below _ hx⟩⟩
  · rintro ⟨own, length, alike⟩
    exact .intro own length (fun x hx => ⟨(alike hx).1, (alike hx).2.1⟩) fun x hx => (alike hx).2.2

theorem Stands.exists_map (h : Stands d₀ d settled v' v) : ∃ id, v' = .map id := by
  cases h
  exact ⟨_, rfl⟩

/-- What stands for a value goes on to do so while the settled mappings stay. -/
theorem Stands.mono (h : Stands d₀ d settled v' v)
    (keep : ∀ id, settled id → settled' id ∧ d'.pairs id = d.pairs id) :
    Stands d₀ d' settled' v' v := by
  induction h with
  | intro own length keys below ih =>
    obtain ⟨own', same⟩ := keep _ own
    exact .intro own' (by rw [same, length]) (by rwa [same]) (by rwa [same])

theorem Alike.mono (h : Alike d₀ d settled pairs entries)
    (keep : ∀ id, settled id → settled' id ∧ d'.pairs id = d.pairs id) :
    Alike d₀ d' settled' pairs entries :=
  List.Forall₂.imp (fun _ _ h => ⟨h.1, h.2.1, h.2.2.mono keep⟩) h

theorem Alike.exists_of_mem_left (h : Alike d₀ d settled pairs entries) {p : Value × Value}
    (hp : p ∈ pairs) : ∃ e ∈ entries, p.1 = e.1 ∧ e.1.IsScalar ∧ Stands d₀ d settled p.2 e.2 := by
  induction h with
  | nil => cases hp
  | cons first rest ih =>
    rcases List.mem_cons.1 hp with rfl | hp
    · exact ⟨_, List.mem_cons_self, first⟩
    · exact (ih hp).imp fun e he => ⟨List.mem_cons_of_mem _ he.1, he.2⟩

theorem Alike.exists_of_mem_right (h : Alike d₀ d settled pairs entries) {e : Value × Value}
    (he : e ∈ entries) : ∃ p ∈ pairs, p.1 = e.1 ∧ e.1.IsScalar ∧ Stands d₀ d settled p.2 e.2 := by
  induction h with
  | nil => cases he
  | cons first rest ih =>
    rcases List.mem_cons.1 he with rfl | he
    · exact ⟨_, List.mem_cons_self, first⟩
    · exact (ih he).imp fun p hp => ⟨List.mem_cons_of_mem _ hp.1, hp.2⟩

/-- A value describes the chains of names that the value describes for which it stands. -/
theorem Stands.describes_iff (h : Stands d₀ d settled v' v) (chain : List String) :
    d.Describes v' chain ↔ d₀.Describes v chain := by
  induction chain generalizing v v' with
  | nil => exact iff_of_true trivial trivial
  | cons name rest ih =>
    obtain ⟨id, rfl⟩ := h.exists_map
    obtain ⟨-, alike⟩ := stands_map_iff.1 h
    rw [Document.Describes, Document.Describes]
    constructor
    · rintro ⟨p, hp, named, further⟩
      obtain ⟨e, he, key, scalar, stands⟩ := alike.exists_of_mem_left hp
      refine ⟨e, he, ?_, (ih stands).1 further⟩
      rw [← named, key]
      exact Document.text_of_isScalar scalar
    · rintro ⟨e, he, named, further⟩
      obtain ⟨p, hp, key, scalar, stands⟩ := alike.exists_of_mem_right he
      refine ⟨p, hp, ?_, (ih stands).2 further⟩
      rw [← named, key]
      exact Document.text_of_isScalar scalar

/-- A value that stands for another one does not hold itself. -/
theorem Stands.acyclic (h : Stands d₀ d settled v' v) : ¬Relation.TransGen d.Holds v' v' := by
  induction h with
  | @intro id v own length keys below ih =>
    intro cycle
    obtain ⟨child, first, back⟩ := Relation.TransGen.head'_iff.1 cycle
    have alike := (stands_map_iff.1 (.intro own length keys below)).2
    cases first with
    | @map _ key child listed =>
      obtain ⟨i, hi, found⟩ := List.getElem_of_mem listed
      have inside : i < (d₀.groupEntries v).length := length ▸ hi
      have paired : ((d.pairs id)[i], (d₀.groupEntries v)[i]) ∈
          (d.pairs id).zip (d₀.groupEntries v) := by
        have both : i < ((d.pairs id).zip (d₀.groupEntries v)).length := by
          rw [List.length_zip]
          omega
        exact List.mem_iff_getElem.2 ⟨i, both, List.getElem_zip⟩
      have none := ih _ paired
      rw [found] at none
      exact none (Relation.TransGen.tail' back (.map listed))

/-! ## Steps -/

variable {trail : List Nat} {r r' r'' : GroupNormalizer}

/-- What holds while values are normalized, where the mappings of a trail are not left yet. -/
structure State (d₀ : Document) (trail : List Nat) (r : GroupNormalizer) : Prop where
  size : d₀.collections.size ≤ r.document.collections.size
  /-- What was not entered is as it is written. -/
  unentered : ∀ id, id ∉ r.entered → id < d₀.collections.size →
    r.document.collections[id]? = d₀.collections[id]?
  entered : ∀ id ∈ r.entered, ∃ pairs, d₀.collections[id]? = some (.map pairs)
  onTrail : trail ⊆ r.entered
  /-- What was entered and left stands for what is written there. -/
  left : ∀ id ∈ r.entered, id ∉ trail →
    Stands d₀ r.document (Settled d₀ trail r) (.map id) (.map id)

/-- What a step leaves as it is: the settled mappings and those of the trail. -/
structure Later (d₀ : Document) (trail : List Nat) (r r' : GroupNormalizer) : Prop where
  entered : r.entered ⊆ r'.entered
  size : r.document.collections.size ≤ r'.document.collections.size
  settled : ∀ id, Settled d₀ trail r id → r'.document.pairs id = r.document.pairs id
  onTrail : ∀ id ∈ trail, r'.document.pairs id = r.document.pairs id

namespace Later

theorem refl (d₀ : Document) (trail : List Nat) (r : GroupNormalizer) : Later d₀ trail r r :=
  ⟨List.Subset.refl _, Nat.le_refl _, fun _ _ => rfl, fun _ _ => rfl⟩

variable (h : Later d₀ trail r r')

include h

theorem settled_of (hid : Settled d₀ trail r id) : Settled d₀ trail r' id :=
  hid.imp (fun hid => ⟨h.entered hid.1, hid.2⟩)
    fun hid => ⟨hid.1, Nat.lt_of_lt_of_le hid.2 h.size⟩

theorem keep (id : Nat) (hid : Settled d₀ trail r id) :
    Settled d₀ trail r' id ∧ r'.document.pairs id = r.document.pairs id :=
  ⟨h.settled_of hid, h.settled id hid⟩

theorem trans (h' : Later d₀ trail r' r'') : Later d₀ trail r r'' where
  entered := List.Subset.trans h.entered h'.entered
  size := Nat.le_trans h.size h'.size
  settled id hid := (h'.settled id (h.settled_of hid)).trans (h.settled id hid)
  onTrail id hid := (h'.onTrail id hid).trans (h.onTrail id hid)

end Later

/-! ### A new mapping -/

section fresh

variable {new : List (Value × Value)}

theorem getElem?_fresh_of_ne (hid : id ≠ r.document.collections.size) :
    (r.fresh new).2.document.collections[id]? = r.document.collections[id]? := by
  rw [fresh, Array.getElem?_push, if_neg hid]

theorem pairs_fresh_of_ne (hid : id ≠ r.document.collections.size) :
    (r.fresh new).2.document.pairs id = r.document.pairs id :=
  Document.pairs_congr (getElem?_fresh_of_ne hid)

theorem pairs_fresh_self :
    (r.fresh new).2.document.pairs r.document.collections.size = new := by
  have found : (r.fresh new).2.document.collections[r.document.collections.size]? =
      some (.map new) := by
    rw [fresh, Array.getElem?_push, if_pos rfl]
  rw [Document.pairs, found]

theorem size_fresh : (r.fresh new).2.document.collections.size =
    r.document.collections.size + 1 := Array.size_push ..

theorem State.inside (h : State d₀ trail r) (hid : id ∈ r.entered) :
    id < r.document.collections.size := by
  obtain ⟨pairs, found⟩ := h.entered id hid
  exact Nat.lt_of_lt_of_le (Array.getElem?_eq_some_iff.1 found).1 h.size

theorem State.settled_lt (h : State d₀ trail r) (hid : Settled d₀ trail r id) :
    id < r.document.collections.size :=
  hid.elim (fun hid => h.inside hid.1) fun hid => hid.2

theorem State.later_fresh (h : State d₀ trail r) : Later d₀ trail r (r.fresh new).2 where
  entered := List.Subset.refl _
  size := by
    rw [size_fresh]
    exact Nat.le_succ _
  settled id hid := pairs_fresh_of_ne (Nat.ne_of_lt (h.settled_lt hid))
  onTrail id hid := pairs_fresh_of_ne (Nat.ne_of_lt (h.inside (h.onTrail hid)))

theorem State.fresh (h : State d₀ trail r) : State d₀ trail (r.fresh new).2 where
  size := Nat.le_trans h.size h.later_fresh.size
  unentered id hid inside :=
    (getElem?_fresh_of_ne (Nat.ne_of_lt (Nat.lt_of_lt_of_le inside h.size))).trans
      (h.unentered id hid inside)
  entered := h.entered
  onTrail := h.onTrail
  left id hid outside := (h.left id hid outside).mono h.later_fresh.keep

/-- A new mapping stands for a value whose pairs its pairs stand for. -/
theorem State.stands_fresh (h : State d₀ trail r)
    (alike : Alike d₀ r.document (Settled d₀ trail r) new (d₀.groupEntries v)) :
    Stands d₀ (r.fresh new).2.document (Settled d₀ trail (r.fresh new).2) (r.fresh new).1 v := by
  have value : (r.fresh new).1 = .map r.document.collections.size := rfl
  rw [value, stands_map_iff, pairs_fresh_self]
  refine ⟨.inr ⟨h.size, ?_⟩, alike.mono h.later_fresh.keep⟩
  rw [size_fresh]
  exact Nat.lt_succ_self _

end fresh

/-! ### Setting a key of a mapping that is entered -/

section set

variable {key value : Value}

theorem getElem?_set_of_ne {other : Nat} (hne : other ≠ id) :
    (r.set id key value).document.collections[other]? = r.document.collections[other]? := by
  rw [GroupNormalizer.set, Document.setCollection, Array.getElem?_setIfInBounds_ne (Ne.symm hne)]

theorem pairs_set_of_ne {other : Nat} (hne : other ≠ id) :
    (r.set id key value).document.pairs other = r.document.pairs other :=
  Document.pairs_congr (getElem?_set_of_ne hne)

theorem pairs_set_self (inside : id < r.document.collections.size) :
    (r.set id key value).document.pairs id =
      Document.put key value (r.document.pairs id) := by
  have found : (r.set id key value).document.collections[id]? =
      some (.map (Document.put key value (r.document.pairs id))) :=
    Array.getElem?_setIfInBounds_self_of_lt inside
  rw [Document.pairs, found]

theorem size_set : (r.set id key value).document.collections.size =
    r.document.collections.size := Array.size_setIfInBounds ..

theorem State.ne_of_settled (h : State d₀ (id :: trail) r) {other : Nat}
    (settled : Settled d₀ (id :: trail) r other) : other ≠ id := by
  rintro rfl
  rcases settled with ⟨-, outside⟩ | ⟨beyond, -⟩
  · exact outside List.mem_cons_self
  · obtain ⟨pairs, found⟩ := h.entered other (h.onTrail List.mem_cons_self)
    exact absurd (Array.getElem?_eq_some_iff.1 found).1 (Nat.not_lt_of_le beyond)

theorem State.keep_set (h : State d₀ (id :: trail) r) (other : Nat)
    (settled : Settled d₀ (id :: trail) r other) :
    Settled d₀ (id :: trail) (r.set id key value) other ∧
      (r.set id key value).document.pairs other = r.document.pairs other := by
  refine ⟨settled.imp_right fun new => ⟨new.1, ?_⟩, pairs_set_of_ne (h.ne_of_settled settled)⟩
  rw [size_set]
  exact new.2

theorem State.set (h : State d₀ (id :: trail) r) :
    State d₀ (id :: trail) (r.set id key value) where
  size := by
    rw [size_set]
    exact h.size
  unentered other outside inside := by
    have hne : other ≠ id := by
      rintro rfl
      exact outside (h.onTrail List.mem_cons_self)
    exact (getElem?_set_of_ne hne).trans (h.unentered other outside inside)
  entered := h.entered
  onTrail := h.onTrail
  left other listed outside := (h.left other listed outside).mono h.keep_set

end set

/-! ### Entering a mapping and leaving it -/

theorem State.enter (h : State d₀ trail r) (new : id ∉ r.entered)
    (found : d₀.collections[id]? = some (.map pairs)) :
    State d₀ (id :: trail) { r with entered := id :: r.entered } where
  size := h.size
  unentered other outside := h.unentered other fun listed => outside (List.mem_cons_of_mem _ listed)
  entered := List.forall_mem_cons.2 ⟨⟨pairs, found⟩, h.entered⟩
  onTrail := List.cons_subset_cons id h.onTrail
  left other listed outside := by
    rw [List.mem_cons, not_or] at outside
    have before : other ∈ r.entered := (List.mem_cons.1 listed).resolve_left outside.1
    refine (h.left other before outside.2).mono fun i settled => ⟨?_, rfl⟩
    refine settled.imp_left fun inside => ⟨List.mem_cons_of_mem _ inside.1, ?_⟩
    rw [List.mem_cons, not_or]
    exact ⟨fun same => new (same ▸ inside.1), inside.2⟩

theorem State.leave (h : State d₀ (id :: trail) r) (outside : id ∉ trail)
    (alike : Alike d₀ r.document (Settled d₀ (id :: trail) r) (r.document.pairs id)
      (d₀.pairs id)) :
    State d₀ trail r ∧ Stands d₀ r.document (Settled d₀ trail r) (.map id) (.map id) := by
  have more (i : Nat) (settled : Settled d₀ (id :: trail) r i) :
      Settled d₀ trail r i ∧ r.document.pairs i = r.document.pairs i :=
    ⟨settled.imp_left fun inside => ⟨inside.1, fun on => inside.2 (List.mem_cons_of_mem _ on)⟩, rfl⟩
  have own : Stands d₀ r.document (Settled d₀ trail r) (.map id) (.map id) :=
    stands_map_iff.2 ⟨.inl ⟨h.onTrail List.mem_cons_self, outside⟩, alike.mono more⟩
  refine ⟨⟨h.size, h.unentered, h.entered, fun i on => h.onTrail (List.mem_cons_of_mem _ on), ?_⟩,
    own⟩
  intro other listed off
  by_cases same : other = id
  · exact same ▸ own
  · refine (h.left other listed ?_).mono more
    rw [List.mem_cons, not_or]
    exact ⟨same, off⟩

/-! ## Normalizing a value -/

/-- What it means that a value was normalized, from a state, to a value and another state. -/
structure Normalizes (d₀ : Document) (trail : List Nat) (r : GroupNormalizer) (v : Value)
    (x : Value × GroupNormalizer) : Prop where
  state : State d₀ trail x.2
  later : Later d₀ trail r x.2
  stands : Stands d₀ x.2.document (Settled d₀ trail x.2) x.1 v
  /-- A mapping stays the one that it is. -/
  own : ∀ id, v = .map id → x.1 = .map id

theorem State.normalizes_fresh (h : State d₀ trail r) {new : List (Value × Value)}
    (alike : Alike d₀ r.document (Settled d₀ trail r) new (d₀.groupEntries v))
    (noMap : ∀ id, v ≠ .map id) : Normalizes d₀ trail r v (r.fresh new) :=
  ⟨h.fresh, h.later_fresh, h.stands_fresh alike, fun id same => absurd same (noMap id)⟩

theorem Normalizes.after {x : Value × GroupNormalizer} (h : Normalizes d₀ trail r' v x)
    (before : Later d₀ trail r r') : Normalizes d₀ trail r v x :=
  ⟨h.state, before.trans h.later, h.stands, h.own⟩

variable {go : GroupNormalizer → Value → Value × GroupNormalizer}

/-! ### The pairs of a mapping -/

section entering

variable {r₀ : GroupNormalizer} {done post : List (Value × Value)}

/-- What holds while the pairs of a mapping are normalized, some of them being done. -/
structure Entering (d₀ : Document) (trail : List Nat) (r₀ : GroupNormalizer) (id : Nat)
    (done post : List (Value × Value)) (r : GroupNormalizer) : Prop where
  state : State d₀ (id :: trail) r
  later : Later d₀ trail r₀ r
  pairs : ∃ now, r.document.pairs id = now ++ post ∧
    Alike d₀ r.document (Settled d₀ (id :: trail) r) now done

/-- What was settled or on the trail before the mapping was entered is another mapping, and so it
is left as it is when a key of the mapping is set. -/
theorem Entering.later_step (start : State d₀ trail r₀) (new : id ∉ r₀.entered)
    {p : Value × Value} (h : Entering d₀ trail r₀ id done post r)
    (spec : Normalizes d₀ (id :: trail) r p.2 (go r p.2)) :
    Later d₀ trail r₀ (enterPair go id r p) := by
  refine ⟨List.Subset.trans h.later.entered spec.later.entered, ?_, fun i settled => ?_,
    fun i on => ?_⟩
  · rw [enterPair, size_set]
    exact Nat.le_trans h.later.size spec.later.size
  · have other : i ≠ id := by
      rintro rfl
      rcases settled with ⟨inside, -⟩ | ⟨beyond, -⟩
      · exact new inside
      · obtain ⟨pairs, found⟩ := spec.state.entered i (spec.state.onTrail List.mem_cons_self)
        exact absurd (Array.getElem?_eq_some_iff.1 found).1 (Nat.not_lt_of_le beyond)
    have still : Settled d₀ (id :: trail) r i := by
      refine (h.later.settled_of settled).imp_left fun inside => ⟨inside.1, ?_⟩
      rw [List.mem_cons, not_or]
      exact ⟨other, inside.2⟩
    rw [enterPair, pairs_set_of_ne other, spec.later.settled i still, h.later.settled i settled]
  · have other : i ≠ id := by
      rintro rfl
      exact new (start.onTrail on)
    rw [enterPair, pairs_set_of_ne other, spec.later.onTrail i (List.mem_cons_of_mem _ on),
      h.later.onTrail i on]

/-- The next pair of a mapping is set to its value, which is normalized. -/
theorem Entering.step (start : State d₀ trail r₀) (new : id ∉ r₀.entered) {p : Value × Value}
    (h : Entering d₀ trail r₀ id done (p :: post) r)
    (distinct : Document.DistinctKeys (done ++ p :: post)) (scalar : p.1.IsScalar)
    (spec : Normalizes d₀ (id :: trail) r p.2 (go r p.2)) :
    Entering d₀ trail r₀ id (done ++ [p]) post (enterPair go id r p) := by
  obtain ⟨now, now_eq, alike⟩ := h.pairs
  have here : id ∈ id :: trail := List.mem_cons_self
  have keep (i : Nat) (settled : Settled d₀ (id :: trail) (go r p.2).2 i) :
      Settled d₀ (id :: trail) (enterPair go id r p) i ∧
        (enterPair go id r p).document.pairs i = (go r p.2).2.document.pairs i :=
    spec.state.keep_set i settled
  have fresh : ∀ q ∈ now, q.1.sameKey p.1 = false := by
    intro q hq
    obtain ⟨e, he, same, -⟩ := alike.exists_of_mem_left hq
    rw [same]
    exact (List.pairwise_append.1 distinct).2.2 e he p List.mem_cons_self
  refine ⟨spec.state.set, h.later_step start new spec, now ++ [(p.1, (go r p.2).1)], ?_, ?_⟩
  · rw [enterPair, pairs_set_self (spec.state.inside (spec.state.onTrail here)),
      spec.later.onTrail id here, now_eq, Document.put_of_known fresh, List.append_assoc]
    rfl
  · refine List.rel_append ((alike.mono spec.later.keep).mono keep) (.cons ?_ .nil)
    exact ⟨rfl, scalar, spec.stands.mono keep⟩

variable (go) in
/-- All pairs of a mapping are normalized one after the other. -/
theorem Entering.foldl (start : State d₀ trail r₀) (new : id ∉ r₀.entered)
    (h : Entering d₀ trail r₀ id done post r) (distinct : Document.DistinctKeys (done ++ post))
    (scalars : ∀ p ∈ post, p.1.IsScalar)
    (spec : ∀ r, State d₀ (id :: trail) r → ∀ p ∈ post,
      Normalizes d₀ (id :: trail) r p.2 (go r p.2)) :
    Entering d₀ trail r₀ id (done ++ post) [] (post.foldl (enterPair go id) r) := by
  induction post generalizing done r with
  | nil => rwa [List.append_nil]
  | cons p post ih =>
    obtain ⟨scalar, scalars⟩ := List.forall_mem_cons.1 scalars
    have next := h.step start new distinct scalar (spec r h.state p List.mem_cons_self)
    rw [List.append_cons] at distinct
    have rest := ih next distinct scalars fun r h p hp => spec r h p (List.mem_cons_of_mem _ hp)
    rwa [List.append_assoc, List.singleton_append] at rest

end entering

/-! ### The items of a list -/

section merging

variable {now acc more' more : List (Value × Value)} {calls : Nat}

theorem Alike.put (h : Alike d₀ d settled now acc) {key value' value : Value}
    (scalar : key.IsScalar) (stands : Stands d₀ d settled value' value) :
    Alike d₀ d settled (Document.put key value' now) (Document.put key value acc) := by
  induction h with
  | nil => exact .cons ⟨rfl, scalar, stands⟩ .nil
  | @cons p e now acc first rest ih =>
    obtain ⟨k, v'⟩ := p
    obtain ⟨l, v⟩ := e
    obtain ⟨rfl, own, below⟩ := first
    rw [Document.put, Document.put]
    split
    · exact .cons ⟨rfl, own, stands⟩ rest
    · exact .cons ⟨rfl, own, below⟩ ih

theorem Alike.putAll (h : Alike d₀ d settled now acc) (h' : Alike d₀ d settled more' more) :
    Alike d₀ d settled (Document.putAll now more') (Document.putAll acc more) := by
  induction h' generalizing now acc with
  | nil => exact h
  | @cons p e more' more first rest ih =>
    rw [Document.putAll, Document.putAll, List.foldl_cons, List.foldl_cons, first.1]
    exact ih (h.put first.2.1 first.2.2)

theorem mergeItem_name {item : Value} (name : item.IsScalar) (given : item ≠ .null)
    (s : List (Value × Value) × GroupNormalizer) : mergeItem go calls s item =
      let leaf := (s.2.name calls item).fresh []
      (Document.put (.text (s.2.document.text item)) leaf.1 s.1, leaf.2) := by
  cases item <;> first | rfl | exact absurd rfl given | exact absurd name Bool.false_ne_true

theorem itemEntries_name {item : Value} (name : item.IsScalar) (given : item ≠ .null) :
    d.itemEntries item = [(.text (d.text item), .null)] := by
  cases item <;> first | rfl | exact absurd rfl given | exact absurd name Bool.false_ne_true

theorem State.name (h : State d₀ trail r) (item : Value) : State d₀ trail (r.name calls item) :=
  ⟨h.size, h.unentered, h.entered, h.onTrail, h.left⟩

theorem Later.of_name {item : Value} (h : Later d₀ trail (r.name calls item) r') :
    Later d₀ trail r r' :=
  ⟨h.entered, h.size, h.settled, h.onTrail⟩

variable (calls) in
/-- What an item adds stands for the pairs that it stands for. -/
theorem mergeItem_spec (h : State d₀ trail r)
    (alike : Alike d₀ r.document (Settled d₀ trail r) now acc) {item : Value}
    (kind : item.IsScalar ∨ ∃ id, item = .map id)
    (spec : ∀ id, item = .map id → Normalizes d₀ trail r item (go r item)) :
    let s := mergeItem go calls (now, r) item
    State d₀ trail s.2 ∧ Later d₀ trail r s.2 ∧
      Alike d₀ s.2.document (Settled d₀ trail s.2) s.1
        (Document.putAll acc (d₀.itemEntries item)) := by
  rcases kind with name | ⟨id, rfl⟩
  · by_cases given : item = .null
    · subst given
      exact ⟨h, .refl d₀ trail r, alike⟩
    · have named : State d₀ trail (r.name calls item) := h.name item
      have reads : r.document.text item = d₀.text item := Document.text_of_isScalar name
      have later : Later d₀ trail r ((r.name calls item).fresh []).2 := named.later_fresh.of_name
      have leaf : Stands d₀ ((r.name calls item).fresh []).2.document
          (Settled d₀ trail ((r.name calls item).fresh []).2) ((r.name calls item).fresh []).1
          .null := named.stands_fresh .nil
      rw [mergeItem_name name given, itemEntries_name name given, reads]
      exact ⟨named.fresh, later, (alike.mono later.keep).put rfl leaf⟩
  · obtain ⟨state, later, stands, own⟩ := spec id rfl
    rw [own id rfl] at stands
    exact ⟨state, later, (alike.mono later.keep).putAll (stands_map_iff.1 stands).2⟩

variable (go calls) in
/-- All items of a list are merged one after the other. -/
theorem foldl_mergeItem_spec {items : List Value} (h : State d₀ trail r)
    (alike : Alike d₀ r.document (Settled d₀ trail r) now acc)
    (kinds : ∀ item ∈ items, item.IsScalar ∨ ∃ id, item = .map id)
    (spec : ∀ r, State d₀ trail r → ∀ id, .map id ∈ items →
      Normalizes d₀ trail r (.map id) (go r (.map id))) :
    let s := items.foldl (mergeItem go calls) (now, r)
    State d₀ trail s.2 ∧ Later d₀ trail r s.2 ∧
      Alike d₀ s.2.document (Settled d₀ trail s.2) s.1
        (items.foldl (fun pairs item => Document.putAll pairs (d₀.itemEntries item)) acc) := by
  induction items generalizing now acc r with
  | nil => exact ⟨h, .refl d₀ trail r, alike⟩
  | cons item items ih =>
    obtain ⟨kind, kinds⟩ := List.forall_mem_cons.1 kinds
    have first := mergeItem_spec calls h alike kind fun id same => by
      subst same
      exact spec r h id List.mem_cons_self
    rw [List.foldl_cons, List.foldl_cons]
    generalize mergeItem go calls (now, r) item = s at first
    obtain ⟨state, later, alike'⟩ := first
    obtain ⟨state', later', alike''⟩ :=
      ih state alike' kinds fun r h id hid => spec r h id (List.mem_cons_of_mem _ hid)
    exact ⟨state', later.trans later', alike''⟩

end merging

/-! ### All values -/

variable {v₀ w : Value} {calls : Nat}

theorem length_le_of_nodup {ids : List Nat} {n : Nat} (distinct : ids.Nodup)
    (inside : ∀ id ∈ ids, id < n) : ids.length ≤ n := by
  have sub : ids ⊆ List.range n := fun id hid => List.mem_range.2 (inside id hid)
  simpa using (distinct.subperm sub).length_le

/-- The mappings of a trail, which lead to a value that is held by the outermost one. -/
structure Way (d₀ : Document) (v₀ : Value) (trail : List Nat) (v : Value) : Prop where
  reach : Relation.ReflTransGen d₀.Holds v₀ v
  above : ∀ id ∈ trail, Relation.TransGen d₀.Holds (.map id) v
  distinct : trail.Nodup
  inside : ∀ id ∈ trail, id < d₀.collections.size

namespace Way

theorem length_le (h : Way d₀ v₀ trail v) : trail.length ≤ d₀.collections.size :=
  length_le_of_nodup h.distinct h.inside

/-- A mapping that is not on the trail makes it longer. -/
theorem length_lt (h : Way d₀ v₀ trail v) (off : id ∉ trail) (inside : id < d₀.collections.size) :
    trail.length < d₀.collections.size :=
  length_le_of_nodup (List.nodup_cons.2 ⟨off, h.distinct⟩)
    (List.forall_mem_cons.2 ⟨inside, h.inside⟩)

theorem down (h : Way d₀ v₀ trail v) (held : d₀.Holds v w) : Way d₀ v₀ trail w where
  reach := h.reach.tail held
  above id hid := (h.above id hid).tail held
  distinct := h.distinct
  inside := h.inside

theorem enter (h : Way d₀ v₀ trail (.map id)) (off : id ∉ trail)
    (inside : id < d₀.collections.size) (held : d₀.Holds (.map id) w) :
    Way d₀ v₀ (id :: trail) w where
  reach := h.reach.tail held
  above := List.forall_mem_cons.2 ⟨.single held, fun i hi => (h.above i hi).tail held⟩
  distinct := List.nodup_cons.2 ⟨off, h.distinct⟩
  inside := List.forall_mem_cons.2 ⟨inside, h.inside⟩

/-- A mapping is not on the way to itself. -/
theorem notMem (h : Way d₀ v₀ trail (.map id)) (groups : GroupsValue d₀ v₀) : id ∉ trail :=
  fun on => groups.acyclic _ h.reach (h.above id on)

end Way

theorem State.pairs_eq (h : State d₀ trail r) (found : d₀.collections[id]? = some (.map pairs))
    (new : id ∉ r.entered) : r.document.pairs id = pairs := by
  rw [Document.pairs, h.unentered id new (Array.getElem?_eq_some_iff.1 found).1, found]

theorem State.items_eq (h : State d₀ trail r) {items : List Value}
    (found : d₀.collections[id]? = some (.list items)) : r.document.items id = items := by
  have new : id ∉ r.entered := by
    intro on
    obtain ⟨pairs, other⟩ := h.entered id on
    rw [found] at other
    cases other
  rw [Document.items, h.unentered id new (Array.getElem?_eq_some_iff.1 found).1, found]

variable (go) in
/-- A mapping is normalized by entering it, normalizing its values and leaving it. -/
theorem State.normalizes_map (h : State d₀ trail r)
    (found : d₀.collections[id]? = some (.map pairs)) (scalars : ∀ p ∈ pairs, p.1.IsScalar)
    (distinct : Document.DistinctKeys pairs) (off : id ∉ trail) (new : id ∉ r.entered)
    (deeper : ∀ r, State d₀ (id :: trail) r → ∀ p ∈ pairs,
      Normalizes d₀ (id :: trail) r p.2 (go r p.2)) :
    Normalizes d₀ trail r (.map id)
      (.map id, pairs.foldl (enterPair go id) { r with entered := id :: r.entered }) := by
  have written : d₀.pairs id = pairs := by rw [Document.pairs, found]
  have entering : Entering d₀ trail r id [] pairs { r with entered := id :: r.entered } := by
    refine ⟨h.enter new found, ⟨?_, Nat.le_refl _, fun _ _ => rfl, fun _ _ => rfl⟩, [], ?_, .nil⟩
    · exact List.subset_cons_self id r.entered
    · exact h.pairs_eq found new
  have done := entering.foldl go h new distinct scalars deeper
  obtain ⟨now, now_eq, alike⟩ := done.pairs
  rw [List.append_nil] at now_eq
  obtain ⟨left, stands⟩ := done.state.leave off (by rw [now_eq, written]; exact alike)
  exact ⟨left, done.later, stands, fun _ same => same⟩

variable (go calls) in
/-- A list is normalized by merging its items into a new mapping. -/
theorem State.normalizes_list (h : State d₀ trail r) {items : List Value}
    (found : d₀.collections[id]? = some (.list items))
    (kinds : ∀ item ∈ items, item.IsScalar ∨ ∃ id, item = .map id)
    (deeper : ∀ r, State d₀ trail r → ∀ id, .map id ∈ items →
      Normalizes d₀ trail r (.map id) (go r (.map id))) :
    let merged := items.foldl (mergeItem go calls) ([], r)
    Normalizes d₀ trail r (.list id) (merged.2.fresh merged.1) := by
  have entries : items.foldl (fun pairs item => Document.putAll pairs (d₀.itemEntries item)) [] =
      d₀.groupEntries (.list id) := by
    rw [Document.groupEntries, Document.items, found]
  obtain ⟨state, later, alike⟩ := foldl_mergeItem_spec go calls h .nil kinds deeper
  exact (state.normalizes_fresh (entries ▸ alike) (by simp)).after later

/-- A text is normalized to a mapping that has it as its key. -/
theorem State.normalizes_text (h : State d₀ trail r) (s : String) :
    Normalizes d₀ trail r (.text s) ((r.fresh []).2.fresh [(.text s, (r.fresh []).1)]) := by
  have leaf : Stands d₀ (r.fresh []).2.document (Settled d₀ trail (r.fresh []).2)
      (r.fresh []).1 .null := h.stands_fresh .nil
  have alike : Alike d₀ (r.fresh []).2.document (Settled d₀ trail (r.fresh []).2)
      [(.text s, (r.fresh []).1)] (d₀.groupEntries (.text s)) := .cons ⟨rfl, rfl, leaf⟩ .nil
  exact (h.fresh.normalizes_fresh alike (by simp)).after h.later_fresh

/-- **A value is normalized** to one that stands for it. The bound on the depth is enough: with each
mapping on the way there is one less to be entered, and between a list and the next one there is a
mapping. -/
theorem normalize_spec (groups : GroupsValue d₀ v₀) (h : State d₀ trail r)
    (way : Way d₀ v₀ trail v)
    (enough : 2 * d₀.collections.size + 1 ≤ 2 * trail.length + calls ∨
      (∃ id, v = .map id) ∧ 2 * d₀.collections.size ≤ 2 * trail.length + calls) :
    Normalizes d₀ trail r v (normalize r v calls) := by
  induction calls generalizing trail r v with
  | zero =>
    have length := way.length_le
    rcases enough with enough | ⟨⟨id, rfl⟩, enough⟩
    · omega
    · obtain ⟨pairs, found, -⟩ := groups.maps id way.reach
      have inside : id < d₀.collections.size := (Array.getElem?_eq_some_iff.1 found).1
      have := way.length_lt (way.notMem groups) inside
      omega
  | succ calls ih =>
    cases v with
    | map id =>
      obtain ⟨pairs, found, scalars, distinct⟩ := groups.maps id way.reach
      have off := way.notMem groups
      rw [normalize]
      by_cases known : id ∈ r.entered
      · rw [if_pos (by simpa using known)]
        exact ⟨h, .refl d₀ trail r, h.left id known off, fun _ same => same⟩
      · rw [if_neg (by simpa using known), h.pairs_eq found known]
        refine h.normalizes_map (normalize · · calls) found scalars distinct off known ?_
        intro r' h' p hp
        have held : d₀.Holds (.map id) p.2 := .map (by rwa [Document.pairs, found])
        refine ih h' (way.enter off (Array.getElem?_eq_some_iff.1 found).1 held) (.inl ?_)
        rw [List.length_cons]
        omega
    | list id =>
      obtain ⟨items, found, kinds⟩ := groups.lists id way.reach
      rw [normalize, h.items_eq found]
      refine h.normalizes_list (normalize · · calls) calls found kinds fun r' h' id' hid => ?_
      have held : d₀.Holds (.list id) (.map id') := .list (by rwa [Document.items, found])
      refine ih h' (way.down held) (.inr ⟨⟨id', rfl⟩, ?_⟩)
      have := enough.resolve_right (by simp)
      omega
    | text s => exact h.normalizes_text s
    | _ => exact h.normalizes_fresh .nil (by simp)

theorem run_spec (groups : GroupsValue d₀ v) :
    Normalizes d₀ [] { document := d₀ } v (run (2 * d₀.collections.size + 2) d₀ v) := by
  have start : State d₀ [] { document := d₀ } :=
    ⟨Nat.le_refl _, fun _ _ _ => rfl, by simp, List.nil_subset _, by simp⟩
  refine normalize_spec groups start ⟨.refl, by simp, List.nodup_nil, by simp⟩ (.inl ?_)
  rw [List.length_nil]
  omega

end ArchModel.GroupNormalizer
