import ArchModel.Proofs.Group.Limits
import ArchModel.Proofs.Group.Normal

/-!
# Normalizing groups on a stack

* `keepsShort_normalize`: bringing groups into normal form adds no integer, so it meets none with
  too many digits if there is none.
* `Twins.normalize`: with each mapping that is entered there is one less to enter, and between two
  of them there is one list at most. So a stack on which two calls fit for each collection that is
  not empty is long enough: the outcome is the one on any longer stack.
* **`run_of_long_stack`**: where one more call fits for each of them, the names are written, too.
-/

namespace ArchModel

open Yaml

namespace Yaml.Document

variable {d : Document}

theorem IsClosed.items (closed : d.IsClosed) (id : Nat) :
    ∀ v ∈ d.items id, v.IsBelow d.collections.size := by
  intro v hv
  obtain ⟨items, listed, hv⟩ := exists_list_of_mem_items hv
  exact closed _ listed v hv

theorem IsClosed.pairs (closed : d.IsClosed) (id : Nat) :
    ∀ p ∈ d.pairs id, p.1.IsBelow d.collections.size ∧ p.2.IsBelow d.collections.size := by
  intro p hp
  obtain ⟨pairs, listed, hp⟩ := exists_map_of_mem_pairs hp
  exact closed _ listed p hp

end Yaml.Document

namespace GroupNormalizer

variable {d₀ : Document} {r r' : GroupNormalizer} {v : Value} {id : Nat}
  {new : List (Value × Value)}

/-! ## Without too long integers -/

/-- What holds while the groups of a document without too long integers are normalized. -/
structure IsShort (r : GroupNormalizer) : Prop where
  document : r.document.IsShort
  limit : r.limit ≠ some .digits

theorem IsShort.meet (h : r.IsShort) {limit : Option Limit} (other : limit ≠ some .digits) :
    (r.meet limit).IsShort where
  document := h.document
  limit met := (Option.or_eq_some_iff.1 met).elim h.limit fun late => other late.2

theorem IsShort.name (h : r.IsShort) (hv : v.IsShort) (calls : Nat) : (r.name calls v).IsShort :=
  h.meet fun limit => Document.due_writeLimit? List.nodup_nil (List.nil_subset _) limit
    ⟨h.document, hv⟩

theorem IsShort.fresh (h : r.IsShort) (shorts : ∀ p ∈ new, p.1.IsShort ∧ p.2.IsShort) :
    (r.fresh new).2.IsShort where
  document c hc := by
    rcases Array.mem_push.1 hc with before | rfl
    · exact h.document c before
    · exact shorts
  limit := h.limit

theorem IsShort.set (h : r.IsShort) {key value : Value} (hk : key.IsShort) (hv : value.IsShort) :
    (r.set id key value).IsShort where
  document c hc := by
    rcases Array.mem_or_eq_of_mem_setIfInBounds hc with before | rfl
    · exact h.document c before
    · exact Document.forall_mem_put (h.document.pairs id) hk hv
  limit := h.limit

/-- What a pass over a value keeps: neither its result nor the document has too long integers. -/
def KeepsShort (go : GroupNormalizer → Value → Value × GroupNormalizer) : Prop :=
  ∀ r v, IsShort r → v.IsShort → (go r v).1.IsShort ∧ (go r v).2.IsShort

section

variable {go : GroupNormalizer → Value → Value × GroupNormalizer}

theorem KeepsShort.enterPair (keeps : KeepsShort go) (h : r.IsShort) {p : Value × Value}
    (hp : p.1.IsShort ∧ p.2.IsShort) : (GroupNormalizer.enterPair go id r p).IsShort :=
  have child := keeps r p.2 h hp.2
  child.2.set hp.1 child.1

theorem KeepsShort.mergeItem (keeps : KeepsShort go) (calls : Nat)
    {s : List (Value × Value) × GroupNormalizer}
    (h : (∀ p ∈ s.1, p.1.IsShort ∧ p.2.IsShort) ∧ s.2.IsShort) {item : Value}
    (hi : item.IsShort) :
    (∀ p ∈ (GroupNormalizer.mergeItem go calls s item).1, p.1.IsShort ∧ p.2.IsShort) ∧
      (GroupNormalizer.mergeItem go calls s item).2.IsShort := by
  unfold GroupNormalizer.mergeItem
  split
  · next id =>
    have child := (keeps s.2 (.map id) h.2 hi).2
    exact ⟨Document.forall_mem_putAll h.1 (child.document.pairs id), child⟩
  · exact h
  · exact ⟨Document.forall_mem_put h.1 trivial trivial, (h.2.name hi calls).fresh (by simp)⟩

end

theorem keepsShort_normalize (calls : Nat) : KeepsShort fun r v => normalize r v calls := by
  induction calls with
  | zero => exact fun r v h hv => ⟨hv, h.meet (by simp)⟩
  | succ calls ih =>
    intro r v h hv
    have leaf : (r.fresh []).2.IsShort := h.fresh (by simp)
    cases v with
    | map id =>
      by_cases before : r.entered.contains id = true
      · simp only [normalize, before, if_true]
        exact ⟨hv, h⟩
      · simp only [normalize, before]
        refine ⟨hv, List.foldlRecOn _ _ ⟨h.document, h.limit⟩ fun s hs p hp => ?_⟩
        exact KeepsShort.enterPair ih hs (h.document.pairs id p hp)
    | text s => exact ⟨trivial, leaf.fresh (by simp [Value.IsShort, GroupNormalizer.fresh])⟩
    | list id =>
      have merged := List.foldlRecOn (r.document.items id)
        (GroupNormalizer.mergeItem (fun r v => normalize r v calls) calls)
        (motive := fun s => (∀ p ∈ s.1, p.1.IsShort ∧ p.2.IsShort) ∧ s.2.IsShort)
        (b := ([], r)) ⟨by simp, h⟩
        fun s hs item hi => KeepsShort.mergeItem ih calls hs (h.document.items id item hi)
      exact ⟨trivial, merged.2.fresh merged.1⟩
    | _ => exact ⟨trivial, leaf⟩

/-! ## Two stacks -/

/-- What holds of a state on the way from a document: lists are as they are written, and so are
mappings that are not entered. The calls are too few for a name only if the stack is short, `room`
being the calls that fit on it where nothing is entered. -/
structure Follows (d₀ : Document) (room : Nat) (r : GroupNormalizer) : Prop where
  size : d₀.collections.size ≤ r.document.collections.size
  items : ∀ id < d₀.collections.size, r.document.items id = d₀.items id
  pairs : ∀ id < d₀.collections.size, id ∉ r.entered → r.document.pairs id = d₀.pairs id
  filled : d₀.filled ⊆ r.document.filled
  limit : r.limit = some .calls →
    room < 2 * d₀.filled.length + r.document.filled.length + 3

/-- States on two stacks that differ in the limits that are met. -/
structure Twins (d₀ : Document) (room : Nat) (r r' : GroupNormalizer) : Prop where
  follows : Follows d₀ room r
  document : r'.document = r.document
  entered : r'.entered = r.entered

/-- The outcomes of two stacks are the same but for the limits. -/
structure Agree (d₀ : Document) (room : Nat) (r : GroupNormalizer)
    (x x' : Value × GroupNormalizer) : Prop where
  value : x'.1 = x.1
  twins : Twins d₀ room x.2 x'.2
  entered : r.entered ⊆ x.2.entered

variable {room : Nat}

theorem Agree.after {s : GroupNormalizer} {x x' : Value × GroupNormalizer}
    (h : Agree d₀ room s x x') (before : r.entered ⊆ s.entered) : Agree d₀ room r x x' :=
  ⟨h.value, h.twins, List.Subset.trans before h.entered⟩

/-- What changes a document keeps this where no list changes, no mapping that is not entered, and
nothing is emptied. -/
theorem Follows.change (h : Follows d₀ room r) (entered : r'.entered = r.entered)
    (limit : r'.limit = r.limit)
    (size : r.document.collections.size ≤ r'.document.collections.size)
    (filled : r.document.filled ⊆ r'.document.filled)
    (items : ∀ i < d₀.collections.size, r'.document.items i = r.document.items i)
    (pairs : ∀ i < d₀.collections.size, i ∉ r.entered →
      r'.document.pairs i = r.document.pairs i) : Follows d₀ room r' where
  size := Nat.le_trans h.size size
  items i inside := (items i inside).trans (h.items i inside)
  pairs i inside off := by
    rw [entered] at off
    exact (pairs i inside off).trans (h.pairs i inside off)
  filled := List.Subset.trans h.filled filled
  limit met := by
    have length := Document.length_filled_mono filled
    have few := h.limit (limit ▸ met)
    omega

theorem Follows.fresh (h : Follows d₀ room r) : Follows d₀ room (r.fresh new).2 := by
  have same (i : Nat) (inside : i < r.document.collections.size) :
      (r.fresh new).2.document.collections[i]? = r.document.collections[i]? :=
    getElem?_fresh_of_ne (Nat.ne_of_lt inside)
  have filled : r.document.filled ⊆ (r.fresh new).2.document.filled := fun i hi =>
    (Document.mem_filled_congr (same i (Document.lt_of_mem_filled hi))).2 hi
  have before {i : Nat} (inside : i < d₀.collections.size) := Nat.lt_of_lt_of_le inside h.size
  refine h.change rfl rfl ?_ filled (fun i inside => ?_) fun i inside _ => ?_
  · rw [size_fresh]
    exact Nat.le_succ _
  · exact Document.items_congr (same i (before inside))
  · exact Document.pairs_congr (same i (before inside))

theorem items_set_self {key value : Value} (inside : id < r.document.collections.size) :
    (r.set id key value).document.items id = [] := by
  have found : (r.set id key value).document.collections[id]? =
      some (.map (Document.put key value (r.document.pairs id))) :=
    Array.getElem?_setIfInBounds_self_of_lt inside
  rw [Document.items, found]

/-- A key is set of a mapping that is entered and is no list. -/
theorem Follows.set (h : Follows d₀ room r) {key value : Value} (entered : id ∈ r.entered)
    (noList : d₀.items id = []) : Follows d₀ room (r.set id key value) := by
  have filled : r.document.filled ⊆ (r.set id key value).document.filled := fun i hi => by
    by_cases own : i = id
    · subst own
      obtain ⟨q, hq, -⟩ := Document.exists_mem_put key value (r.document.pairs i)
      rw [← pairs_set_self (Document.lt_of_mem_filled hi)] at hq
      exact Document.mem_filled_of_pair hq
    · exact (Document.mem_filled_congr (getElem?_set_of_ne own)).2 hi
  refine h.change rfl rfl (Nat.le_of_eq size_set.symm) filled (fun i inside => ?_) fun i _ off => ?_
  · by_cases own : i = id
    · subst own
      rw [items_set_self (Nat.lt_of_lt_of_le inside h.size), h.items i inside, noList]
    · exact Document.items_congr (getElem?_set_of_ne own)
  · exact pairs_set_of_ne fun own => off (own ▸ entered)

/-- The calls that are left for a name are at most two less for each collection. -/
theorem Follows.name (h : Follows d₀ room r) {calls : Nat}
    (left : room ≤ calls + 1 + 2 * d₀.filled.length) (item : Value) :
    Follows d₀ room (r.name calls item) where
  size := h.size
  items := h.items
  pairs := h.pairs
  filled := h.filled
  limit met := by
    rcases Option.or_eq_some_iff.1 met with before | ⟨-, now⟩
    · exact h.limit before
    · have few := Document.due_writeLimit? List.nodup_nil (List.nil_subset _) now
      have few : calls + 0 < r.document.filled.length + 2 := few
      show room < 2 * d₀.filled.length + r.document.filled.length + 3
      omega

namespace Twins

variable (h : Twins d₀ room r r')

include h

theorem fresh (new : List (Value × Value)) : Agree d₀ room r (r.fresh new) (r'.fresh new) where
  value := by
    rw [GroupNormalizer.fresh, GroupNormalizer.fresh, h.document]
  twins := by
    refine ⟨h.follows.fresh, ?_, h.entered⟩
    rw [GroupNormalizer.fresh, GroupNormalizer.fresh, h.document]
  entered := List.Subset.refl _

theorem set (entered : id ∈ r.entered) (noList : d₀.items id = []) (key value : Value) :
    Twins d₀ room (r.set id key value) (r'.set id key value) where
  follows := h.follows.set entered noList
  document := by
    rw [GroupNormalizer.set, GroupNormalizer.set, h.document]
  entered := h.entered

theorem name {calls : Nat} (left : room ≤ calls + 1 + 2 * d₀.filled.length) (calls' : Nat)
    (item : Value) : Twins d₀ room (r.name calls item) (r'.name calls' item) where
  follows := h.follows.name left item
  document := h.document
  entered := h.entered

theorem enter (id : Nat) : Twins d₀ room { r with entered := id :: r.entered }
    { r' with entered := id :: r'.entered } where
  follows := {
    size := h.follows.size
    items := h.follows.items
    pairs := fun i inside off => h.follows.pairs i inside fun on => off (List.mem_cons_of_mem _ on)
    filled := h.follows.filled
    limit := h.follows.limit }
  document := h.document
  entered := congrArg (id :: ·) h.entered

end Twins

section passes

variable (go go' : GroupNormalizer → Value → Value × GroupNormalizer)

/-- The pairs of a mapping are entered alike, if their values are normalized alike. -/
theorem Twins.foldl_enterPair {pairs : List (Value × Value)} (h : Twins d₀ room r r')
    (own : id ∈ r.entered) (noList : d₀.items id = [])
    (spec : ∀ p ∈ pairs, ∀ s s', Twins d₀ room s s' → r.entered ⊆ s.entered →
      Agree d₀ room s (go s p.2) (go' s' p.2)) :
    Twins d₀ room (pairs.foldl (enterPair go id) r) (pairs.foldl (enterPair go' id) r') ∧
      r.entered ⊆ (pairs.foldl (enterPair go id) r).entered := by
  induction pairs generalizing r r' with
  | nil => exact ⟨h, List.Subset.refl _⟩
  | cons p pairs ih =>
    have child := spec p List.mem_cons_self r r' h (List.Subset.refl _)
    have first : Twins d₀ room (enterPair go id r p) (enterPair go' id r' p) := by
      rw [enterPair, enterPair, child.value]
      exact child.twins.set (child.entered own) noList p.1 (go r p.2).1
    obtain ⟨rest, grown⟩ := ih first (child.entered own) fun q hq s s' twins later =>
      spec q (List.mem_cons_of_mem _ hq) s s' twins (List.Subset.trans child.entered later)
    exact ⟨rest, List.Subset.trans child.entered grown⟩

/-- What an item adds to a level is the same. -/
theorem Twins.mergeItem (h : Twins d₀ room r r') {calls : Nat}
    (left : room ≤ calls + 1 + 2 * d₀.filled.length) (calls' : Nat)
    (now : List (Value × Value)) (item : Value)
    (spec : ∀ id, item = .map id → Agree d₀ room r (go r item) (go' r' item)) :
    let x := GroupNormalizer.mergeItem go calls (now, r) item
    let x' := GroupNormalizer.mergeItem go' calls' (now, r') item
    x'.1 = x.1 ∧ Twins d₀ room x.2 x'.2 ∧ r.entered ⊆ x.2.entered := by
  unfold GroupNormalizer.mergeItem
  split
  · next id =>
    have child := spec id rfl
    refine ⟨?_, child.twins, child.entered⟩
    dsimp only
    rw [child.twins.document]
  · exact ⟨rfl, h, List.Subset.refl _⟩
  · have leaf := (h.name left calls' item).fresh []
    refine ⟨?_, leaf.twins, leaf.entered⟩
    dsimp only
    rw [leaf.value, h.document]

/-- The items of a list are merged alike, if its mappings are normalized alike. -/
theorem Twins.foldl_mergeItem {items : List Value} (h : Twins d₀ room r r') {calls : Nat}
    (left : room ≤ calls + 1 + 2 * d₀.filled.length) (calls' : Nat)
    (now : List (Value × Value))
    (spec : ∀ id, .map id ∈ items → ∀ s s', Twins d₀ room s s' → r.entered ⊆ s.entered →
      Agree d₀ room s (go s (.map id)) (go' s' (.map id))) :
    let x := items.foldl (GroupNormalizer.mergeItem go calls) (now, r)
    let x' := items.foldl (GroupNormalizer.mergeItem go' calls') (now, r')
    x'.1 = x.1 ∧ Twins d₀ room x.2 x'.2 ∧ r.entered ⊆ x.2.entered := by
  induction items generalizing r r' now with
  | nil => exact ⟨rfl, h, List.Subset.refl _⟩
  | cons item items ih =>
    have first := h.mergeItem go go' left calls' now item fun id same => by
      subst same
      exact spec id List.mem_cons_self r r' h (List.Subset.refl _)
    rw [List.foldl_cons, List.foldl_cons]
    generalize GroupNormalizer.mergeItem go calls (now, r) item = x at first ⊢
    generalize GroupNormalizer.mergeItem go' calls' (now, r') item = x' at first ⊢
    obtain ⟨now, s⟩ := x
    obtain ⟨now', s'⟩ := x'
    obtain ⟨same, twins, grown⟩ := first
    obtain rfl : now' = now := same
    have rest := ih twins now' fun id hid t t' twins later =>
      spec id (List.mem_cons_of_mem _ hid) t t' twins (List.Subset.trans grown later)
    exact ⟨rest.1, rest.2.1, List.Subset.trans grown rest.2.2⟩

end passes

/-! ### Values by their kinds -/

section kinds

variable {calls calls' : Nat}

/-- A mapping is normalized alike, if the values in it are once it is entered. -/
theorem Twins.normalize_map (h : Twins d₀ room r r') (below : id < d₀.collections.size)
    (deeper : id ∉ r.entered → ∀ p ∈ d₀.pairs id, ∀ s s', Twins d₀ room s s' →
      id :: r.entered ⊆ s.entered → Agree d₀ room s (s.normalize p.2 calls)
        (s'.normalize p.2 calls')) :
    Agree d₀ room r (r.normalize (.map id) (calls + 1)) (r'.normalize (.map id) (calls' + 1)) := by
  rw [GroupNormalizer.normalize, GroupNormalizer.normalize, h.document]
  by_cases known : id ∈ r.entered
  · have known' : id ∈ r'.entered := h.entered ▸ known
    rw [if_pos (by simpa using known), if_pos (by simpa using known')]
    exact ⟨rfl, h, List.Subset.refl _⟩
  · have known' : id ∉ r'.entered := h.entered ▸ known
    rw [if_neg (by simpa using known), if_neg (by simpa using known'),
      h.follows.pairs id below known]
    have start := h.enter id
    rw [h.document] at start
    by_cases none : d₀.pairs id = []
    · rw [none]
      exact ⟨rfl, start, List.subset_cons_self _ _⟩
    · obtain ⟨twins, grown⟩ := start.foldl_enterPair (normalize · · calls)
        (normalize · · calls') List.mem_cons_self (Document.items_eq_nil none) (deeper known)
      exact ⟨rfl, twins, List.Subset.trans (List.subset_cons_self _ _) grown⟩

/-- A list is normalized alike, if the mappings in it are. -/
theorem Twins.normalize_list (h : Twins d₀ room r r') (below : id < d₀.collections.size)
    (left : room ≤ calls + 1 + 2 * d₀.filled.length)
    (deeper : ∀ i, .map i ∈ d₀.items id → ∀ s s', Twins d₀ room s s' → r.entered ⊆ s.entered →
      Agree d₀ room s (s.normalize (.map i) calls) (s'.normalize (.map i) calls')) :
    Agree d₀ room r (r.normalize (.list id) (calls + 1))
      (r'.normalize (.list id) (calls' + 1)) := by
  obtain ⟨same, twins, grown⟩ := h.foldl_mergeItem (normalize · · calls) (normalize · · calls') left
    calls' [] deeper
  rw [GroupNormalizer.normalize, GroupNormalizer.normalize, h.document,
    h.follows.items id below, same]
  exact (twins.fresh _).after grown

theorem Twins.normalize_text (h : Twins d₀ room r r') (s : String) :
    Agree d₀ room r (r.normalize (.text s) (calls + 1))
      (r'.normalize (.text s) (calls' + 1)) := by
  have leaf := h.fresh []
  rw [GroupNormalizer.normalize, GroupNormalizer.normalize, leaf.value]
  exact (leaf.twins.fresh _).after leaf.entered

end kinds

/-- One for a mapping, which may follow on a list, and zero for any other value. -/
def lead : Value → Nat
  | .map _ => 1
  | _ => 0

theorem lead_le (v : Value) : lead v ≤ 1 := by
  unfold lead
  split <;> decide

/-- **A stack that is long enough** gives the outcome of any other one. Where a call is made, the
calls that are left and two for each mapping of the trail are as many as fit on the stack; before a
mapping one of them may be used for a list. -/
theorem Twins.normalize (closed : d₀.IsClosed) {room' calls calls' : Nat}
    {trail : List Nat} (enough : 2 * d₀.filled.length + 2 ≤ room)
    (enough' : 2 * d₀.filled.length + 2 ≤ room') (h : Twins d₀ room r r')
    (distinct : trail.Nodup) (inside : trail ⊆ d₀.filled)
    (entered : trail ⊆ r.entered) (below : v.IsBelow d₀.collections.size)
    (left : room ≤ calls + 2 * trail.length + lead v)
    (left' : room' ≤ calls' + 2 * trail.length + lead v) :
    Agree d₀ room r (r.normalize v calls) (r'.normalize v calls') := by
  have length := Document.length_le_filled distinct inside
  have most := lead_le v
  -- Each call within another one enters a mapping, or a list whose mappings come next.
  induction calls generalizing calls' trail r r' v with
  | zero => omega
  | succ calls ih =>
    obtain ⟨calls', rfl⟩ : ∃ n, calls' = n + 1 := ⟨calls' - 1, by omega⟩
    cases v with
    | map id =>
      have own : lead (.map id) = 1 := rfl
      refine h.normalize_map below fun new p hp s s' twins later => ?_
      have distinct' : (id :: trail).Nodup :=
        List.nodup_cons.2 ⟨fun on => new (entered on), distinct⟩
      have inside' : id :: trail ⊆ d₀.filled :=
        List.cons_subset.2 ⟨Document.mem_filled_of_pair hp, inside⟩
      have entered' : id :: trail ⊆ s.entered :=
        List.Subset.trans (List.cons_subset_cons id entered) later
      have longer : (id :: trail).length = trail.length + 1 := List.length_cons
      exact ih twins distinct' inside' entered' (closed.pairs id p hp).2 (by omega) (by omega)
        (Document.length_le_filled distinct' inside') (lead_le p.2)
    | list id =>
      have own : lead (.list id) = 0 := rfl
      refine h.normalize_list below (by omega) fun i hi s s' twins later => ?_
      have next : lead (.map i) = 1 := rfl
      exact ih twins distinct inside (List.Subset.trans entered later) (closed.items id _ hi)
        (by omega) (by omega) length (lead_le _)
    | text s => exact h.normalize_text s
    | _ => exact h.fresh []

section run

variable {d : Document} {calls : Nat}

/-- Two calls for each collection that is not empty are enough for the normal form. -/
theorem run_of_enough (closed : d.IsClosed) (below : v.IsBelow d.collections.size)
    (enough : 2 * d.filled.length + 2 ≤ calls) :
    ((run calls d v).1, (run calls d v).2.document) = normalizeGroups d v ∧
      Follows d calls (run calls d v).2 := by
  have start : Twins d calls { document := d } { document := d } :=
    ⟨⟨Nat.le_refl _, fun _ _ => rfl, fun _ _ _ => rfl, List.Subset.refl _, by simp⟩, rfl, rfl⟩
  have size : d.filled.length ≤ d.collections.size :=
    Nat.le_trans (List.length_filter_le _ _) (Nat.le_of_eq List.length_range)
  have enough' : 2 * d.filled.length + 2 ≤ 2 * d.collections.size + 2 := by omega
  have done : Agree d calls { document := d } (run calls d v)
      (run (2 * d.collections.size + 2) d v) :=
    start.normalize closed enough enough' List.nodup_nil (List.nil_subset _) (List.nil_subset _)
      below (by simp) (by simp)
  exact ⟨Prod.ext done.value.symm done.twins.document.symm, done.twins.follows⟩

/-- The normal form of groups empties no collection. -/
theorem length_filled_le (closed : d.IsClosed) (below : v.IsBelow d.collections.size) :
    d.filled.length ≤ (normalizeGroups d v).2.filled.length := by
  obtain ⟨same, follows⟩ := run_of_enough closed below (Nat.le_refl _)
  rw [← same]
  exact Document.length_filled_mono follows.filled

/-- **On a long stack** groups are brought into their normal form, and no limit on the calls is
met: three calls are enough for each collection that is not empty then, two of them for entering it
and one for writing it in a name. -/
theorem run_of_long_stack (closed : d.IsClosed) (below : v.IsBelow d.collections.size)
    (long : 3 * (normalizeGroups d v).2.filled.length + 3 ≤ calls) :
    ((run calls d v).1, (run calls d v).2.document) = normalizeGroups d v ∧
      (run calls d v).2.limit ≠ some .calls := by
  have fewer := length_filled_le closed below
  have enough : 2 * d.filled.length + 2 ≤ calls := by omega
  obtain ⟨same, follows⟩ := run_of_enough closed below enough
  refine ⟨same, fun met => ?_⟩
  have few := follows.limit met
  rw [← same] at fewer long
  dsimp only at fewer long
  omega

end run

end GroupNormalizer

end ArchModel
