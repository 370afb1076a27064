import ArchModel.Proofs.Group.Chains
import ArchModel.Proofs.Group.Levels
import ArchModel.Proofs.Group.Normal

/-!
# The paths of groups that are written as lists

`groupPaths` are the paths of a value once it is normalized. The traversal of a normalized value
meets every chain of names that the value describes (`Groups.mem_paths_ofDocument_iff`), so the
paths can be read off the value as it is written.

* The paths of a value are those that begin at its outermost level (`mem_groupPaths_iff_levelPath`).
* The level of a list has the names of its items, and under each the value that the last item gives
  it. So what an earlier item gives a name is lost, unless the items agree (`Document.Agree`).
* **`groupPaths_list`**: the paths of a list, which are those of its items together if they agree.
-/

namespace ArchModel

open Yaml Text GroupNormalizer

/-! ## The chains of a normalized value -/

namespace Groups

variable {d₀ d : Document} {settled : Nat → Prop} {v w : Value} {level fuel : Nat}
  {path names : List String} {around : List Nat}

/-- The names of a level are the keys of its mapping, if all its values are mappings. -/
theorem mem_entries_ofDocument (maps : ∀ p ∈ d.pairs level, ∃ below, p.2 = .map below)
    {e : String × Nat} : e ∈ (ofDocument d w).entries level ↔
      ∃ key, (key, .map e.2) ∈ d.pairs level ∧ d.text key = e.1 := by
  rw [entries, ofDocument, Array.getElem?_map]
  unfold Document.pairs at maps ⊢
  cases found : d.collections[level]? with
  | none => simp
  | some c =>
    cases c with
    | list items => simp
    | map pairs =>
      rw [found] at maps
      simp only [Option.map_some, Option.getD_some, List.mem_map]
      constructor
      · rintro ⟨⟨key, value⟩, listed, rfl⟩
        obtain ⟨below, rfl⟩ := maps _ listed
        exact ⟨key, listed, rfl⟩
      · rintro ⟨key, listed, named⟩
        exact ⟨_, listed, by rw [named]⟩

/-- The values in a mapping that stands for a value stand for others, and so they are mappings. -/
theorem exists_stands_of_mem (h : Stands d₀ d settled (.map level) v) {p : Value × Value}
    (hp : p ∈ d.pairs level) :
    ∃ below v', p.2 = .map below ∧ Stands d₀ d settled (.map below) v' := by
  obtain ⟨e, -, -, -, stands⟩ := (stands_map_iff.1 h).2.exists_of_mem_left hp
  obtain ⟨below, same⟩ := stands.exists_map
  exact ⟨below, e.2, same, same ▸ stands⟩

/-- A chain of names that the traversal goes down is the name of an entry, or goes on below it. -/
theorem exists_mem_walkFrom_succ_iff {g : Groups} (apart : level ∉ around) :
    (∃ x ∈ g.walkFrom path around level (fuel + 1), x.1 = path ++ names) ↔
      ∃ e ∈ g.entries level, ∃ rest, names = e.1 :: rest ∧ (rest = [] ∨
        ∃ x ∈ g.walkFrom (path ++ [e.1]) (level :: around) e.2 fuel,
          x.1 = path ++ [e.1] ++ rest) := by
  constructor
  · rintro ⟨x, hx, whole⟩
    obtain ⟨-, e, he, rfl | deeper⟩ := mem_walkFrom_iff.1 hx
    · exact ⟨e, he, [], (List.append_cancel_left whole).symm, .inl rfl⟩
    · obtain ⟨rest, -, longer⟩ := exists_append_of_mem_walkFrom deeper
      refine ⟨e, he, rest, ?_, .inr ⟨x, deeper, longer⟩⟩
      rw [longer, List.append_assoc] at whole
      exact (List.append_cancel_left whole).symm
  · rintro ⟨e, he, rest, rfl, rfl | ⟨x, deeper, longer⟩⟩
    · exact ⟨_, mem_walkFrom_iff.2 ⟨apart, e, he, .inl rfl⟩, rfl⟩
    · refine ⟨x, mem_walkFrom_iff.2 ⟨apart, e, he, .inr deeper⟩, ?_⟩
      rw [longer, List.append_assoc, List.singleton_append]

theorem lt_size_ofDocument {p : Value × Value} (hp : p ∈ d.pairs level) :
    level < (ofDocument d w).levels.size := by
  have size : (ofDocument d w).levels.size = d.collections.size := Array.size_map
  by_contra beyond
  rw [Document.pairs, Array.getElem?_eq_none (by omega)] at hp
  cases hp

/-- The traversal goes down every chain that a mapping describes which stands for a value. -/
theorem exists_mem_walkFrom_iff (h : Stands d₀ d settled (.map level) v)
    (trail : (ofDocument d w).Trail around)
    (above : ∀ l ∈ around, Relation.TransGen d.Holds (.map l) (.map level))
    (enough : (ofDocument d w).levels.size < around.length + fuel) :
    (∃ x ∈ (ofDocument d w).walkFrom path around level fuel, x.1 = path ++ names) ↔
      names ≠ [] ∧ d.Describes (.map level) names := by
  induction fuel generalizing level v path names around with
  | zero =>
    have := trail.length_le
    omega
  | succ fuel ih =>
    have maps : ∀ p ∈ d.pairs level, ∃ below, p.2 = .map below := fun p hp =>
      (exists_stands_of_mem h hp).imp fun below h => h.choose_spec.1
    have apart : level ∉ around := fun on => h.acyclic (above level on)
    -- The chains below a key are those that its value describes.
    have go {key : Value} {below : Nat} (listed : (key, .map below) ∈ d.pairs level)
        (rest : List String) : (rest = [] ∨
          ∃ x ∈ (ofDocument d w).walkFrom (path ++ [d.text key]) (level :: around) below fuel,
            x.1 = path ++ [d.text key] ++ rest) ↔ d.Describes (.map below) rest := by
      obtain ⟨_, v', same, stands⟩ := exists_stands_of_mem h listed
      obtain rfl := Value.map.inj same
      have held : d.Holds (.map level) (.map below) := .map listed
      have above' : ∀ l ∈ level :: around, Relation.TransGen d.Holds (.map l) (.map below) :=
        List.forall_mem_cons.2 ⟨.single held, fun l hl => (above l hl).tail held⟩
      rw [ih stands (trail.cons (lt_size_ofDocument listed) apart) above'
        (by rw [List.length_cons]; omega)]
      by_cases last : rest = []
      · subst last
        exact iff_of_true (.inl rfl) trivial
      · simp only [last, false_or, ne_eq, not_false_eq_true, true_and]
    rw [exists_mem_walkFrom_succ_iff apart]
    constructor
    · rintro ⟨e, he, rest, rfl, goesOn⟩
      obtain ⟨key, listed, named⟩ := (mem_entries_ofDocument maps).1 he
      rw [← named] at goesOn ⊢
      exact ⟨List.cons_ne_nil _ _, (key, .map e.2), listed, rfl, (go listed rest).1 goesOn⟩
    · rintro ⟨hne, described⟩
      obtain ⟨name, rest, rfl⟩ := List.exists_cons_of_ne_nil hne
      obtain ⟨⟨key, value⟩, listed, rfl, further⟩ := described
      obtain ⟨below, rfl⟩ := maps _ listed
      have he : (d.text key, below) ∈ (ofDocument d w).entries level :=
        (mem_entries_ofDocument maps).2 ⟨key, listed, rfl⟩
      exact ⟨_, he, rest, rfl, (go listed rest).2 further⟩

/-- The paths of a normalized value are those of the chains that it is to describe. -/
theorem mem_paths_ofDocument_iff {v' : Value} (h : Stands d₀ d settled v' v) {p : String} :
    p ∈ (ofDocument d v').paths ↔
      ∃ names ≠ [], d₀.Describes v names ∧ join "/" names = p := by
  obtain ⟨level, rfl⟩ := h.exists_map
  have trail : (ofDocument d (.map level)).Trail [] := ⟨List.nodup_nil, by simp⟩
  have walk {names : List String} : (∃ x ∈ (ofDocument d (.map level)).walk, x.1 = names) ↔
      names ≠ [] ∧ d₀.Describes v names := by
    rw [← h.describes_iff]
    refine exists_mem_walkFrom_iff h trail (by simp) ?_
    rw [List.length_nil]
    omega
  rw [mem_paths_iff]
  constructor
  · rintro ⟨x, hx, rfl⟩
    obtain ⟨hne, described⟩ := walk.1 ⟨x, hx, rfl⟩
    exact ⟨x.1, hne, described, rfl⟩
  · rintro ⟨names, hne, described, rfl⟩
    obtain ⟨x, hx, rfl⟩ := walk.2 ⟨hne, described⟩
    exact ⟨x, hx, rfl⟩

end Groups

/-! ## Paths -/

/-- The paths of the groups of a value, as they are read off it once it is normalized. -/
def groupPaths (d : Document) (v : Value) : List String :=
  let x := normalizeGroups d v
  (Groups.ofDocument x.2 x.1).paths

section

variable {d : Document} {v : Value} {id : Nat} {items : List Value} {p : String}

theorem mem_groupPaths_iff (h : GroupsValue d v) :
    p ∈ groupPaths d v ↔ ∃ names ≠ [], d.Describes v names ∧ join "/" names = p :=
  Groups.mem_paths_ofDocument_iff (run_spec h).stands

theorem join_slash_cons (name : String) {rest : List String} (hne : rest ≠ []) :
    join "/" (name :: rest) = name ++ "/" ++ join "/" rest := by
  obtain ⟨next, rest, rfl⟩ := List.exists_cons_of_ne_nil hne
  rw [join, String.intercalate_cons_cons]
  rfl

end

namespace Yaml.Document

/-- A path that begins at a level: the name of a group, or that and a path below the group. -/
def LevelPath (d : Document) (pairs : List (Value × Value)) (p : String) : Prop :=
  ∃ e ∈ pairs, p = d.text e.1 ∨ ∃ q ∈ groupPaths d e.2, p = d.text e.1 ++ "/" ++ q

/-- Items agree on what they both name: a group that two of them name has the same paths in both,
and its name is written alike. -/
def Agree (d : Document) (items : List Value) : Prop :=
  ∀ a ∈ items, ∀ b ∈ items, ∀ e ∈ d.itemEntries a, ∀ f ∈ d.itemEntries b, e.1.sameKey f.1 →
    d.text e.1 = d.text f.1 ∧ groupPaths d e.2 ⊆ groupPaths d f.2

theorem Agree.mono {d : Document} {items items' : List Value} (h : d.Agree items)
    (sub : items' ⊆ items) : d.Agree items' := fun a ha b hb => h a (sub ha) b (sub hb)

end Yaml.Document

section

variable {d : Document} {v : Value} {id : Nat} {items : List Value} {p : String}

/-- The paths of a value are those that begin at its outermost level. -/
theorem mem_groupPaths_iff_levelPath (h : GroupsValue d v) :
    p ∈ groupPaths d v ↔ d.LevelPath (d.groupEntries v) p := by
  rw [mem_groupPaths_iff h]
  constructor
  · rintro ⟨names, hne, described, rfl⟩
    cases names with
    | nil => exact absurd rfl hne
    | cons name rest =>
      obtain ⟨e, he, rfl, further⟩ := described
      refine ⟨e, he, ?_⟩
      by_cases last : rest = []
      · subst last
        exact .inl (by simp [join])
      · have below := (h.readable_groupEntries e he).2
        exact .inr ⟨_, (mem_groupPaths_iff below).2 ⟨rest, last, further, rfl⟩,
          join_slash_cons _ last⟩
  · rintro ⟨e, he, rfl | ⟨q, hq, rfl⟩⟩
    · exact ⟨[d.text e.1], List.cons_ne_nil _ _, ⟨e, he, rfl, trivial⟩, by simp [join]⟩
    · have below := (h.readable_groupEntries e he).2
      obtain ⟨rest, hne, further, rfl⟩ := (mem_groupPaths_iff below).1 hq
      exact ⟨d.text e.1 :: rest, List.cons_ne_nil _ _, ⟨e, he, rfl, further⟩,
        join_slash_cons _ hne⟩

/-- The paths of a list whose items agree are those that begin at an item. -/
theorem mem_groupPaths_list_iff (h : GroupsValue d (.list id)) (agree : d.Agree (d.items id)) :
    p ∈ groupPaths d (.list id) ↔ ∃ item ∈ d.items id, d.LevelPath (d.itemEntries item) p := by
  rw [mem_groupPaths_iff_levelPath h]
  constructor
  · rintro ⟨e, he, begins⟩
    obtain ⟨⟨a, ha, k, hk, key⟩, b, hb, f, hf, value, same⟩ :=
      Document.exists_of_mem_groupEntries he
    obtain ⟨named, -⟩ := agree a ha b hb k hk f hf (by rwa [key])
    refine ⟨b, hb, f, hf, ?_⟩
    rwa [← named, key, value]
  · rintro ⟨item, hi, f, hf, begins⟩
    obtain ⟨e, he, same⟩ := Document.exists_mem_groupEntries hi hf
    obtain ⟨⟨a, ha, k, hk, key⟩, b, hb, l, hl, value, same'⟩ :=
      Document.exists_of_mem_groupEntries he
    rw [← key] at same same'
    obtain ⟨named, -⟩ := agree a ha item hi k hk f hf same
    have below : groupPaths d f.2 ⊆ groupPaths d e.2 := by
      have first := (agree item hi a ha f hf k hk (by rwa [Value.sameKey_comm])).2
      have second := (agree a ha b hb k hk l hl same').2
      rw [← value]
      exact List.Subset.trans first second
    refine ⟨e, he, ?_⟩
    rw [← key, named]
    exact begins.imp_right fun ⟨q, hq, whole⟩ => ⟨q, below hq, whole⟩

/-! ## Lists of other items -/

theorem mem_groupPaths_withList_iff (h : GroupsValue d v) :
    p ∈ groupPaths (d.withList items) v ↔ p ∈ groupPaths d v := by
  rw [mem_groupPaths_iff h, mem_groupPaths_iff (h.withList items)]
  simp only [Document.describes_withList_iff h]

theorem levelPath_withList_iff {pairs : List (Value × Value)} (h : d.Readable pairs) :
    (d.withList items).LevelPath pairs p ↔ d.LevelPath pairs p := by
  refine exists_congr fun e => and_congr_right fun he => ?_
  obtain ⟨scalar, below⟩ := h e he
  have reads : (d.withList items).text e.1 = d.text e.1 := Document.text_of_isScalar scalar
  rw [reads]
  refine or_congr_right (exists_congr fun q => and_congr_left fun _ => ?_)
  exact mem_groupPaths_withList_iff below

variable (each : ∀ item ∈ items, (item.IsScalar ∨ ∃ id, item = .map id) ∧ GroupsValue d item)

include each

theorem Yaml.Document.Agree.withList (agree : d.Agree items) : (d.withList items).Agree items := by
  intro a ha b hb e he f hf same
  obtain ⟨kind, groups⟩ := each a ha
  obtain ⟨kind', groups'⟩ := each b hb
  rw [Document.itemEntries_withList groups kind] at he
  rw [Document.itemEntries_withList groups' kind'] at hf
  obtain ⟨scalar, below⟩ := groups.readable_itemEntries e he
  obtain ⟨scalar', below'⟩ := groups'.readable_itemEntries f hf
  obtain ⟨named, sub⟩ := agree a ha b hb e he f hf same
  have reads {v : Value} (scalar : v.IsScalar) : (d.withList items).text v = d.text v :=
    Document.text_of_isScalar scalar
  refine ⟨by rw [reads scalar, reads scalar', named], fun q hq => ?_⟩
  exact (mem_groupPaths_withList_iff below').2 (sub ((mem_groupPaths_withList_iff below).1 hq))

/-- The paths of another list of items that agree. -/
theorem mem_groupPaths_otherList_iff (agree : d.Agree items) :
    p ∈ groupPaths (d.withList items) (.list d.collections.size) ↔
      ∃ item ∈ items, d.LevelPath (d.itemEntries item) p := by
  have groups := GroupsValue.list_withList each
  have own : (d.withList items).items d.collections.size = items := Document.items_withList_self
  rw [mem_groupPaths_list_iff groups (by rw [own]; exact agree.withList each), own]
  refine exists_congr fun item => and_congr_right fun hi => ?_
  obtain ⟨kind, groups⟩ := each item hi
  rw [Document.itemEntries_withList groups kind]
  exact levelPath_withList_iff groups.readable_itemEntries

end

/-! ## Lists -/

/-- **The paths of groups that are written as a list.** They begin at the names of its items, where
a name that several items have leads on to what the last of them gives it. If the items agree on the
names that they share, they are the paths of the lists of one item together, and so they are the
same in every order of the items. -/
theorem groupPaths_list {d : Document} {id : Nat} (h : GroupsValue d (.list id)) :
    (∀ p, p ∈ groupPaths d (.list id) ↔ d.LevelPath (d.groupEntries (.list id)) p) ∧
    (d.Agree (d.items id) →
      (∀ p, p ∈ groupPaths d (.list id) ↔
        ∃ item ∈ d.items id, p ∈ groupPaths (d.withList [item]) (.list d.collections.size)) ∧
      ∀ items, items.Perm (d.items id) → ∀ p,
        p ∈ groupPaths (d.withList items) (.list d.collections.size) ↔
          p ∈ groupPaths d (.list id)) := by
  have each : ∀ item ∈ d.items id, (item.IsScalar ∨ ∃ id, item = .map id) ∧ GroupsValue d item := by
    obtain ⟨own, found, kinds⟩ := h.lists id .refl
    have own_eq : d.items id = own := by rw [Document.items, found]
    exact fun item hi => ⟨kinds item (own_eq ▸ hi), h.of_reach (.single (.list hi))⟩
  refine ⟨fun p => mem_groupPaths_iff_levelPath h, fun agree => ⟨fun p => ?_, ?_⟩⟩
  · rw [mem_groupPaths_list_iff h agree]
    refine exists_congr fun item => and_congr_right fun hi => ?_
    have sub : [item] ⊆ d.items id := List.cons_subset.2 ⟨hi, List.nil_subset _⟩
    rw [mem_groupPaths_otherList_iff (fun i hi => each i (sub hi)) (agree.mono sub)]
    simp
  · intro items perm p
    rw [mem_groupPaths_list_iff h agree,
      mem_groupPaths_otherList_iff (fun i hi => each i (perm.subset hi)) (agree.mono perm.subset)]
    exact exists_congr fun item => and_congr_left fun _ => perm.mem_iff

namespace ListedGroups

/-- A list of groups, whose items may be the mapping `{A: [x]}`. -/
def document (items : List Value) : Document where
  collections := #[.list items, .map [(.text "A", .list 2)], .list [.text "x"]]

theorem groupsValue {items : List Value} (h : ∀ item ∈ items, item.IsScalar ∨ item = .map 1) :
    GroupsValue (document items) (.list 0) := by
  have level : GroupsValue (document items) (.list 2) :=
    .of_list rfl (List.forall_mem_singleton.2 ⟨.inl rfl, .of_isScalar rfl⟩)
  have groups : GroupsValue (document items) (.map 1) :=
    .of_map rfl (List.forall_mem_singleton.2 rfl) (List.pairwise_singleton _ _)
      (List.forall_mem_singleton.2 level)
  refine .of_list rfl fun item hi => ?_
  rcases h item hi with name | rfl
  · exact ⟨.inl name, .of_isScalar name⟩
  · exact ⟨.inr ⟨1, rfl⟩, groups⟩

end ListedGroups

open ListedGroups in
theorem groupPaths_list_repeated :
    let d := document [.map 1, .text "B", .map 1]
    GroupsValue d (.list 0) ∧ d.Agree (d.items 0) ∧ groupPaths d (.list 0) = ["A", "B", "A/x"] ∧
      "A/x" ∈ groupPaths (d.withList [.text "B", .map 1, .map 1]) (.list 3) := by
  intro d
  have groups : GroupsValue d (.list 0) := groupsValue (by simp [Value.IsScalar, Value.scalarText?])
  have agree : d.Agree (d.items 0) := by
    unfold Document.Agree
    decide +kernel
  have paths : groupPaths d (.list 0) = ["A", "B", "A/x"] := by decide +kernel
  have perm : [.text "B", .map 1, .map 1].Perm (d.items 0) := .swap ..
  refine ⟨groups, agree, paths, (((groupPaths_list groups).2 agree).2 _ perm _).2 ?_⟩
  rw [paths]
  decide

open ListedGroups in
/-- What an earlier item gives a group is lost when a later one names the group, and so the paths
depend on the order of the items. -/
theorem not_forall_groupPaths_list :
    (¬∀ (d : Document) (id : Nat), GroupsValue d (.list id) → ∀ p, p ∈ groupPaths d (.list id) ↔
      ∃ item ∈ d.items id, p ∈ groupPaths (d.withList [item]) (.list d.collections.size)) ∧
    ¬∀ (d : Document) (id : Nat), GroupsValue d (.list id) →
      ∀ items, items.Perm (d.items id) → ∀ p,
        p ∈ groupPaths (d.withList items) (.list d.collections.size) ↔
          p ∈ groupPaths d (.list id) := by
  have groups : GroupsValue (document [.map 1, .text "A"]) (.list 0) :=
    groupsValue (by simp [Value.IsScalar, Value.scalarText?])
  have lost : "A/x" ∉ groupPaths (document [.map 1, .text "A"]) (.list 0) := by decide +kernel
  constructor
  · intro claim
    refine lost ((claim _ 0 groups "A/x").2 ⟨.map 1, List.mem_cons_self, ?_⟩)
    decide +kernel
  · intro claim
    refine lost ((claim _ 0 groups [.text "A", .map 1] (.swap ..) "A/x").1 ?_)
    decide +kernel

end ArchModel
