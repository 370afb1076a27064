import ArchModel.Files.Selection
import ArchModel.Proofs.Files.Tree
import ArchModel.Proofs.Text.Order
import Mathlib.Data.List.Sort

/-!
# Which source files are selected

* `mem_sourceNames_iff`: the source files below a directory are the files whose names end in `.py`
  with no ignored directory on the way.
* `ListedBefore` is the order in which they come: the files of a directory, then those below its
  subdirectories (`pairwise_sourceNames`). No way stands before itself, so none comes twice.
* `Tree.Reordered.sourceNames_eq`: the order of the entries does not matter.
* `SourcePatterns.selects_iff` reads the selection off the patterns as they are written.
* **`selectSources_exact`**: which files are selected, in which order, and what changes nothing.
-/

namespace ArchModel

open Text

variable {es es' : List (String × Tree)} {t t' : Tree} {rel : List String}

/-! ## Entries by name -/

section sortByName

variable {α : Type} {l l' : List (String × α)}

theorem sortByName_perm (l : List (String × α)) : (sortByName l).Perm l := List.mergeSort_perm l _

theorem mem_sortByName_iff {x : String × α} : x ∈ sortByName l ↔ x ∈ l :=
  (sortByName_perm l).mem_iff

/-- Things of different names stand in the strict order of their names. -/
theorem pairwise_sortByName (distinct : (l.map Prod.fst).Nodup) :
    (sortByName l).Pairwise fun a b => codes a.1 < codes b.1 := by
  have ordered : (sortByName l).Pairwise fun a b => inOrder a.1 b.1 = true := by
    refine List.pairwise_mergeSort (fun a b c hab hbc => ?_) (fun a b => ?_) l
    · exact inOrder_iff.2 ((inOrder_iff.1 hab).trans (inOrder_iff.1 hbc))
    · rw [Bool.or_eq_true, inOrder_iff, inOrder_iff]
      exact le_total _ _
  have apart : (sortByName l).Pairwise fun a b => a.1 ≠ b.1 :=
    List.pairwise_map.1 (((sortByName_perm l).map Prod.fst).nodup_iff.2 distinct)
  refine apart.imp₂ (fun a b apart le => ?_) ordered
  exact lt_of_le_of_ne (inOrder_iff.1 le) fun same => apart (codes_injective same)

theorem sortByName_eq_of_perm (distinct : (l.map Prod.fst).Nodup) (h : l.Perm l') :
    sortByName l = sortByName l' := by
  have irrefl : Std.Irrefl fun a b : String × α => codes a.1 < codes b.1 := ⟨fun a => lt_irrefl _⟩
  have antisymm : Std.Antisymm fun a b : String × α => codes a.1 < codes b.1 :=
    ⟨fun a b hab hba => absurd hab hba.asymm⟩
  refine (pairwise_sortByName distinct).eq_of_mem_iff
    (pairwise_sortByName ((h.map Prod.fst).nodup_iff.1 distinct)) fun x => ?_
  rw [mem_sortByName_iff, mem_sortByName_iff, h.mem_iff]

end sortByName

/-! ## The source files below a directory -/

/-- Below a path, a way of names leads down to a source file. -/
structure Tree.SourceBelow (t : Tree) (root : Path) (rel : List String) : Prop where
  below : rel ≠ []
  down : ".." ∉ rel
  file : ∃ bytes, t.find? ⟨root.parts ++ rel⟩ = some (.file bytes)
  named : endsWith ".py" (Path.name ⟨rel⟩) = true
  /-- No directory on the way is passed over. -/
  searched : ∀ dir ∈ rel.dropLast, dir ∉ ignoredDirs

/-- Whether an entry is a directory that is not ignored. -/
def isSearched (e : String × Tree) : Bool := e.2.isDir && !ignoredDirs.contains e.1

theorem isSearched_iff {e : String × Tree} :
    isSearched e = true ↔ e.2.isDir = true ∧ e.1 ∉ ignoredDirs := by
  rw [isSearched, Bool.and_eq_true, Bool.not_eq_true', ← Bool.not_eq_true, List.contains_iff_mem]

theorem isSource_iff {e : String × Tree} :
    isSource e = true ↔ (∃ bytes, e.2 = .file bytes) ∧ endsWith ".py" e.1 = true := by
  obtain ⟨name, t⟩ := e
  cases t <;> simp [isSource]

theorem sourceNamesIn_eq (es : List (String × Tree)) :
    sourceNamesIn es = (es.filter isSearched).map fun e => (e.1, sourceNames e.2) := by
  induction es with
  | nil => rfl
  | cons e es ih =>
    have first : sourceNamesIn (e :: es) =
        if isSearched e then (e.1, sourceNames e.2) :: sourceNamesIn es else sourceNamesIn es := by
      rw [sourceNamesIn]
      rfl
    rw [first, List.filter_cons, ih]
    split <;> rfl

theorem sourceNames_dir (es : List (String × Tree)) :
    sourceNames (.dir es) = ((sortByName (es.filter isSource)).map fun e => [e.1]) ++
      (sortByName (sourceNamesIn es)).flatMap fun e => e.2.map (e.1 :: ·) := by
  rw [sourceNames]

theorem mem_sourceNamesIn_iff {x : String × List (List String)} : x ∈ sourceNamesIn es ↔
    ∃ e ∈ es, isSearched e = true ∧ x = (e.1, sourceNames e.2) := by
  rw [sourceNamesIn_eq, List.mem_map]
  simp only [List.mem_filter, and_assoc, eq_comm]

/-- A source file below a directory is one of its files, or below one of its directories. -/
theorem mem_sourceNames_dir_iff : rel ∈ sourceNames (.dir es) ↔
    (∃ e ∈ es, isSource e = true ∧ rel = [e.1]) ∨
    ∃ e ∈ es, isSearched e = true ∧ ∃ below ∈ sourceNames e.2, rel = e.1 :: below := by
  rw [sourceNames_dir, List.mem_append, List.mem_map, List.mem_flatMap]
  simp only [mem_sortByName_iff, List.mem_filter, mem_sourceNamesIn_iff, List.mem_map]
  refine or_congr ⟨?_, ?_⟩ ⟨?_, ?_⟩
  · rintro ⟨e, ⟨he, source⟩, rfl⟩
    exact ⟨e, he, source, rfl⟩
  · rintro ⟨e, he, source, rfl⟩
    exact ⟨e, ⟨he, source⟩, rfl⟩
  · rintro ⟨-, ⟨e, he, searched, rfl⟩, below, hb, rfl⟩
    exact ⟨e, he, searched, below, hb, rfl⟩
  · rintro ⟨e, he, searched, below, hb, rfl⟩
    exact ⟨_, ⟨e, he, searched, rfl⟩, below, hb, rfl⟩

theorem ne_nil_of_mem_sourceNames (h : rel ∈ sourceNames t) : rel ≠ [] := by
  cases t with
  | file bytes =>
    rw [sourceNames] at h
    cases h
  | dir es =>
    rcases mem_sourceNames_dir_iff.1 h with ⟨e, -, -, rfl⟩ | ⟨e, -, -, below, -, rfl⟩
    · exact List.cons_ne_nil _ _
    · exact List.cons_ne_nil _ _

namespace Tree

theorem sourceBelow_file_iff {bytes : List UInt8} : ¬(file bytes).SourceBelow {} rel := by
  intro h
  obtain ⟨name, rel, rfl⟩ := List.exists_cons_of_ne_nil h.below
  obtain ⟨found, there⟩ := h.file
  rw [List.nil_append, find?_cons h.down] at there
  cases there

/-- A file of a directory itself. -/
theorem sourceBelow_singleton_iff (h : (dir es).Proper) {name : String} :
    (dir es).SourceBelow {} [name] ↔ ∃ e ∈ es, isSource e = true ∧ name = e.1 := by
  obtain ⟨distinct, down, -⟩ := h.parts
  constructor
  · intro source
    obtain ⟨bytes, there⟩ := source.file
    rw [List.nil_append, find?_cons source.down] at there
    obtain ⟨d, found, here⟩ := Option.bind_eq_some_iff.1 there
    have last : d = .file bytes := Option.some.inj here
    exact ⟨(name, d), (entry_eq_some_iff distinct).1 found,
      isSource_iff.2 ⟨⟨bytes, last⟩, source.named⟩, rfl⟩
  · rintro ⟨e, he, source, rfl⟩
    obtain ⟨⟨bytes, isFile⟩, named⟩ := isSource_iff.1 source
    have notUp : ".." ∉ [e.1] := fun hm => down e he (List.mem_singleton.1 hm).symm
    refine ⟨List.cons_ne_nil _ _, notUp, ⟨bytes, ?_⟩, named, by simp⟩
    rw [List.nil_append, find?_cons notUp, (entry_eq_some_iff distinct).2 he, Option.bind_some,
      isFile]
    rfl

/-- A file of a directory within a directory. -/
theorem sourceBelow_cons_iff (h : (dir es).Proper) {name : String} (hne : rel ≠ []) :
    (dir es).SourceBelow {} (name :: rel) ↔
      ∃ e ∈ es, isSearched e = true ∧ name = e.1 ∧ e.2.SourceBelow {} rel := by
  obtain ⟨distinct, down, -⟩ := h.parts
  have last (name : String) : Path.name ⟨name :: rel⟩ = Path.name ⟨rel⟩ := by
    obtain ⟨next, rel, rfl⟩ := List.exists_cons_of_ne_nil hne
    rw [Path.name, List.getLast?_cons_cons, Path.name]
  have way (name : String) : (name :: rel).dropLast = name :: rel.dropLast :=
    List.dropLast_cons_of_ne_nil hne
  constructor
  · intro source
    obtain ⟨bytes, there⟩ := source.file
    have searched := source.searched
    rw [way, List.forall_mem_cons] at searched
    rw [List.nil_append, find?_cons source.down] at there
    obtain ⟨d, found, inside⟩ := Option.bind_eq_some_iff.1 there
    have notUp : ".." ∉ rel := fun hm => source.down (List.mem_cons_of_mem _ hm)
    have isDir : d.isDir = true := by
      cases d with
      | dir => rfl
      | file bytes' =>
        obtain ⟨next, rel, rfl⟩ := List.exists_cons_of_ne_nil hne
        rw [find?_cons notUp] at inside
        cases inside
    exact ⟨(name, d), (entry_eq_some_iff distinct).1 found,
      isSearched_iff.2 ⟨isDir, searched.1⟩, rfl,
      ⟨hne, notUp, ⟨bytes, inside⟩, last name ▸ source.named, searched.2⟩⟩
  · rintro ⟨e, he, searched, rfl, source⟩
    have notUp : ".." ∉ e.1 :: rel := fun hm =>
      (List.mem_cons.1 hm).elim (fun same => down e he same.symm) source.down
    obtain ⟨bytes, there⟩ := source.file
    refine ⟨List.cons_ne_nil _ _, notUp, ⟨bytes, ?_⟩, (last e.1).symm ▸ source.named, ?_⟩
    · rw [List.nil_append, find?_cons notUp, (entry_eq_some_iff distinct).2 he, Option.bind_some]
      exact there
    · rw [way, List.forall_mem_cons]
      exact ⟨(isSearched_iff.1 searched).2, source.searched⟩

end Tree

/-- The source files below a directory are all that stand there. -/
theorem mem_sourceNames_iff (h : t.Proper) : rel ∈ sourceNames t ↔ t.SourceBelow {} rel := by
  induction h generalizing rel with
  | file bytes =>
    rw [sourceNames]
    exact iff_of_false List.not_mem_nil Tree.sourceBelow_file_iff
  | dir names down entries ih =>
    have proper : (Tree.dir _).Proper := .dir names down entries
    rw [mem_sourceNames_dir_iff]
    cases rel with
    | nil =>
      refine iff_of_false ?_ fun source => source.below rfl
      rintro (⟨e, -, -, none⟩ | ⟨e, -, -, below, -, none⟩) <;> cases none
    | cons name rel =>
      by_cases hne : rel = []
      · subst hne
        rw [Tree.sourceBelow_singleton_iff proper]
        refine (or_iff_left ?_).trans (by simp)
        rintro ⟨e, -, -, below, hb, same⟩
        exact ne_nil_of_mem_sourceNames hb (List.cons.inj same).2.symm
      · rw [Tree.sourceBelow_cons_iff proper hne]
        refine (or_iff_right ?_).trans ⟨?_, ?_⟩
        · rintro ⟨e, -, -, same⟩
          exact hne (List.cons.inj same).2
        · rintro ⟨e, he, searched, below, hb, same⟩
          obtain ⟨rfl, rfl⟩ := List.cons.inj same
          exact ⟨e, he, searched, rfl, (ih e he).1 hb⟩
        · rintro ⟨e, he, searched, rfl, source⟩
          exact ⟨e, he, searched, rel, (ih e he).2 source, rfl⟩

/-! ## Their order -/

/-- One way of names comes before another one: the files of a directory in the order of their names,
then what is below its subdirectories, one subdirectory after the other. -/
inductive ListedBefore : List String → List String → Prop
  | files {a b : String} (h : codes a < codes b) : ListedBefore [a] [b]
  | fileFirst (a b : String) {below : List String} (h : below ≠ []) :
    ListedBefore [a] (b :: below)
  | dirs {a b : String} {below below' : List String} (h : codes a < codes b) (ha : below ≠ [])
    (hb : below' ≠ []) : ListedBefore (a :: below) (b :: below')
  | within (a : String) {below below' : List String} (h : ListedBefore below below') :
    ListedBefore (a :: below) (a :: below')

theorem ListedBefore.ne {a b : List String} (h : ListedBefore a b) : a ≠ b := by
  induction h with
  | files h =>
    intro same
    obtain ⟨rfl, -⟩ := List.cons.inj same
    exact lt_irrefl _ h
  | fileFirst a b h => exact fun same => h (List.cons.inj same).2.symm
  | dirs h =>
    intro same
    obtain ⟨rfl, -⟩ := List.cons.inj same
    exact lt_irrefl _ h
  | within a _ ih => exact fun same => ih (List.cons.inj same).2

theorem ne_nil_of_mem_sourceNamesIn {x : String × List (List String)}
    (hx : x ∈ sortByName (sourceNamesIn es)) (h : rel ∈ x.2) : rel ≠ [] := by
  obtain ⟨e, -, -, rfl⟩ := mem_sourceNamesIn_iff.1 (mem_sortByName_iff.1 hx)
  exact ne_nil_of_mem_sourceNames h

theorem map_fst_sourceNamesIn_sublist (es : List (String × Tree)) :
    ((sourceNamesIn es).map Prod.fst).Sublist (es.map Prod.fst) := by
  rw [sourceNamesIn_eq, List.map_map]
  exact List.filter_sublist.map Prod.fst

/-- The source files below a directory come in order. -/
theorem pairwise_sourceNames (h : t.Proper) : (sourceNames t).Pairwise ListedBefore := by
  induction h with
  | file bytes =>
    rw [sourceNames]
    exact .nil
  | @dir es names down entries ih =>
    have files := pairwise_sortByName (names.sublist ((List.filter_sublist (p := isSource)).map _))
    have dirs := pairwise_sortByName (names.sublist (map_fst_sourceNamesIn_sublist es))
    rw [sourceNames_dir, List.pairwise_append, List.pairwise_map, List.pairwise_flatMap]
    refine ⟨files.imp .files, ⟨fun x hx => ?_, dirs.imp_of_mem fun {x y} hx hy before => ?_⟩, ?_⟩
    · obtain ⟨e, he, -, rfl⟩ := mem_sourceNamesIn_iff.1 (mem_sortByName_iff.1 hx)
      exact List.pairwise_map.2 ((ih e he).imp (.within e.1))
    · intro a ha b hb
      obtain ⟨below, inside, rfl⟩ := List.mem_map.1 ha
      obtain ⟨below', inside', rfl⟩ := List.mem_map.1 hb
      exact .dirs before (ne_nil_of_mem_sourceNamesIn hx inside)
        (ne_nil_of_mem_sourceNamesIn hy inside')
    · intro a ha b hb
      obtain ⟨e, -, rfl⟩ := List.mem_map.1 ha
      obtain ⟨x, hx, hb⟩ := List.mem_flatMap.1 hb
      obtain ⟨below, inside, rfl⟩ := List.mem_map.1 hb
      exact .fileFirst e.1 x.1 (ne_nil_of_mem_sourceNamesIn hx inside)

/-! ## The order of entries -/

namespace Tree.Reordered

/-- Files have no entries to put in another order. -/
theorem eq_of_file {bytes : List UInt8} (h : t.Reordered t') (ht : t = .file bytes) : t' = t := by
  induction h with
  | refl => rfl
  | perm => cases ht
  | entry => cases ht
  | trans _ _ ih ih' =>
    have same := ih ht
    exact (ih' (same.trans ht)).trans same

/-- The source files below a directory do not depend on the order of entries. -/
theorem sourceNames_eq (h : t.Reordered t') (ht : t.Proper) : sourceNames t' = sourceNames t := by
  induction h with
  | refl => rfl
  | @perm es es' h =>
    have names := ht.parts.1
    have files : sortByName (es'.filter isSource) = sortByName (es.filter isSource) :=
      (sortByName_eq_of_perm (names.sublist (List.filter_sublist.map _)) (h.filter _)).symm
    have dirs : sortByName (sourceNamesIn es') = sortByName (sourceNamesIn es) := by
      refine (sortByName_eq_of_perm (names.sublist (map_fst_sourceNamesIn_sublist es)) ?_).symm
      rw [sourceNamesIn_eq, sourceNamesIn_eq]
      exact (h.filter _).map _
    rw [sourceNames_dir, sourceNames_dir, files, dirs]
  | @entry u u' before after name h ih =>
    cases u with
    | file bytes => rw [h.eq_of_file rfl]
    | dir es =>
      have isDir : u'.isDir = true := h.isDir_eq.symm
      have noFile : isSource (name, u') = false := by
        cases u' with
        | file => cases isDir
        | dir => rfl
      have searched : isSearched (name, u') = isSearched (name, dir es) :=
        congrArg (· && !ignoredDirs.contains name) isDir
      have inside : sourceNames u' = sourceNames (dir es) :=
        ih (ht.parts.2.2 (name, dir es) (by simp))
      have files : (before ++ (name, u') :: after).filter isSource =
          (before ++ (name, dir es) :: after).filter isSource := by
        rw [List.filter_append, List.filter_append, List.filter_cons_of_neg (by simp [noFile]),
          List.filter_cons_of_neg (by simp [isSource])]
      have dirs : sourceNamesIn (before ++ (name, u') :: after) =
          sourceNamesIn (before ++ (name, dir es) :: after) := by
        rw [sourceNamesIn_eq, sourceNamesIn_eq, List.filter_append, List.filter_append,
          List.filter_cons, List.filter_cons, searched]
        split <;> simp [inside]
      rw [sourceNames_dir, sourceNames_dir, files, dirs]
  | trans h _ ih ih' => exact (ih' (h.proper ht)).trans (ih ht)

end Tree.Reordered

/-! ## Patterns -/

/-- A pattern says something of a path: it is not empty and matches it. -/
def WrittenPattern.Covers (w : WrittenPattern) (path : String) : Prop :=
  w.body ≠ "" ∧ (Pattern.ofText w.body).accepts path = true

instance (w : WrittenPattern) (path : String) : Decidable (w.Covers path) :=
  inferInstanceAs (Decidable (w.body ≠ "" ∧ (Pattern.ofText w.body).accepts path = true))

namespace SourcePatterns

variable {patterns patterns' : List String} {path : String}

theorem mem_includes_iff {p : Pattern} : p ∈ (ofTexts patterns).includes ↔
    ∃ s ∈ patterns, (WrittenPattern.ofText s).negated = false ∧
      (WrittenPattern.ofText s).body ≠ "" ∧ Pattern.ofText (WrittenPattern.ofText s).body = p := by
  simp [ofTexts, and_assoc, and_left_comm]

theorem mem_excludes_iff {p : Pattern} : p ∈ (ofTexts patterns).excludes ↔
    ∃ s ∈ patterns, (WrittenPattern.ofText s).negated = true ∧
      (WrittenPattern.ofText s).body ≠ "" ∧ Pattern.ofText (WrittenPattern.ofText s).body = p := by
  simp [ofTexts, and_assoc, and_left_comm]

theorem selects_iff : (ofTexts patterns).selects path = true ↔
    (∃ s ∈ patterns, (WrittenPattern.ofText s).negated = false ∧
      (WrittenPattern.ofText s).Covers path) ∧
    ∀ s ∈ patterns, (WrittenPattern.ofText s).negated = true →
      ¬(WrittenPattern.ofText s).Covers path := by
  rw [selects, Bool.and_eq_true, Bool.not_eq_true', ← Bool.not_eq_true, List.any_eq_true,
    List.any_eq_true]
  refine and_congr ⟨?_, ?_⟩ ⟨?_, ?_⟩
  · rintro ⟨p, hp, accepts⟩
    obtain ⟨s, hs, negated, body, rfl⟩ := mem_includes_iff.1 hp
    exact ⟨s, hs, negated, body, accepts⟩
  · rintro ⟨s, hs, negated, body, accepts⟩
    exact ⟨_, mem_includes_iff.2 ⟨s, hs, negated, body, rfl⟩, accepts⟩
  · rintro none s hs negated ⟨body, accepts⟩
    exact none ⟨_, mem_excludes_iff.2 ⟨s, hs, negated, body, rfl⟩, accepts⟩
  · rintro none ⟨p, hp, accepts⟩
    obtain ⟨s, hs, negated, body, rfl⟩ := mem_excludes_iff.1 hp
    exact none s hs negated ⟨body, accepts⟩

/-- Patterns select by what they are, in whatever order and however often. -/
theorem selects_congr (same : ∀ s, s ∈ patterns' ↔ s ∈ patterns) (path : String) :
    (ofTexts patterns').selects path = (ofTexts patterns).selects path := by
  rw [Bool.eq_iff_iff, selects_iff, selects_iff]
  simp only [same]

/-- Another pattern that includes keeps what is selected. -/
theorem selects_cons_of_included {s : String} (included : (WrittenPattern.ofText s).negated = false)
    (h : (ofTexts patterns).selects path = true) :
    (ofTexts (s :: patterns)).selects path = true := by
  obtain ⟨⟨s', hs', one⟩, none⟩ := selects_iff.1 h
  refine selects_iff.2 ⟨⟨s', List.mem_cons_of_mem _ hs', one⟩, List.forall_mem_cons.2 ⟨?_, none⟩⟩
  exact fun negated => by simp [included] at negated

/-- Another pattern that excludes adds nothing to what is selected. -/
theorem selects_of_selects_cons {s : String} (negated : (WrittenPattern.ofText s).negated = true)
    (h : (ofTexts (s :: patterns)).selects path = true) :
    (ofTexts patterns).selects path = true := by
  obtain ⟨⟨s', hs', one⟩, none⟩ := selects_iff.1 h
  refine selects_iff.2 ⟨⟨s', ?_, one⟩, (List.forall_mem_cons.1 none).2⟩
  refine (List.mem_cons.1 hs').resolve_left ?_
  rintro rfl
  exact absurd (one.1.symm.trans negated) (by simp)

end SourcePatterns

/-! ## Selected files -/

namespace Tree

/-- The ways of names from a path to the source files below it. -/
def sourceWays (t : Tree) (root : Path) : List (List String) :=
  ((t.find? root).map sourceNames).getD []

variable {root : Path}

theorem sourceWays_of_some {d : Tree} (found : t.find? root = some d) :
    t.sourceWays root = sourceNames d := by
  rw [sourceWays, found, Option.map_some, Option.getD_some]

theorem sourceWays_of_none (none : t.find? root = none) : t.sourceWays root = [] := by
  rw [sourceWays, none, Option.map_none, Option.getD_none]

theorem mem_sourceWays_iff (h : t.Proper) : rel ∈ t.sourceWays root ↔ t.SourceBelow root rel := by
  cases found : t.find? root with
  | none =>
    rw [sourceWays_of_none found]
    refine iff_of_false List.not_mem_nil fun source => ?_
    obtain ⟨bytes, there⟩ := source.file
    rw [find?_append source.down, found] at there
    cases there
  | some d =>
    have proper : d.Proper := h.of_follow (by simp) found
    have way (down : ".." ∉ rel) : t.find? ⟨root.parts ++ rel⟩ = d.find? ⟨rel⟩ := by
      rw [find?_append down, found, Option.bind_some]
    rw [sourceWays_of_some found, mem_sourceNames_iff proper]
    constructor
    · rintro ⟨below, down, file, named, searched⟩
      exact ⟨below, down, (way down).symm ▸ file, named, searched⟩
    · rintro ⟨below, down, file, named, searched⟩
      exact ⟨below, down, (way down) ▸ file, named, searched⟩

theorem pairwise_sourceWays (h : t.Proper) (root : Path) :
    (t.sourceWays root).Pairwise ListedBefore := by
  cases found : t.find? root with
  | none =>
    rw [sourceWays_of_none found]
    exact .nil
  | some d =>
    rw [sourceWays_of_some found]
    exact pairwise_sourceNames (h.of_follow (by simp) found)

theorem Reordered.sourceWays_eq (other : t.Reordered t') (h : t.Proper) (root : Path) :
    t'.sourceWays root = t.sourceWays root := by
  cases found : t.find? root with
  | some d =>
    obtain ⟨d', found', below⟩ := other.exists_find? h found
    rw [sourceWays_of_some found, sourceWays_of_some found',
      below.sourceNames_eq (h.of_follow (by simp) found)]
  | none =>
    cases found' : t'.find? root with
    | none => rw [sourceWays_of_none found, sourceWays_of_none found']
    | some d' =>
      obtain ⟨d, there, -⟩ := other.symm.exists_find? (other.proper h) found'
      exact absurd (found.symm.trans there) (by simp)

end Tree

theorem selectSources_eq (t : Tree) (root : Path) (patterns : List String) :
    selectSources t root patterns =
      ((t.sourceWays root).filter fun rel =>
        (SourcePatterns.ofTexts patterns).selects (join "/" rel)).map
          fun rel => ⟨root.parts ++ rel⟩ := by
  rw [selectSources, Tree.sourceWays]
  cases t.find? root <;> rfl

/-- What patterns select is selected by patterns that select more. -/
theorem selectSources_sublist {patterns patterns' : List String} (t : Tree) (root : Path)
    (more : ∀ path, (SourcePatterns.ofTexts patterns).selects path = true →
      (SourcePatterns.ofTexts patterns').selects path = true) :
    (selectSources t root patterns).Sublist (selectSources t root patterns') := by
  rw [selectSources_eq, selectSources_eq]
  exact (List.monotone_filter_right _ fun rel => more (join "/" rel)).map _

/-- **Which source files are selected.** Below a directory of a file tree, a list of patterns
selects exactly the files whose names end in `.py`, with no ignored directory between, whose way
from the directory is covered by a pattern that includes and by none that excludes. Each comes once,
in the order of the tree: in every directory the files by their names, then what is below its
subdirectories, these by their names as well. The order in which the tree has its entries does not
matter, nor do order and repetition of the patterns; a pattern more that includes takes no file
away, and one that excludes adds none. -/
theorem selectSources_exact (proper : t.Proper) (root : Path) (patterns : List String) :
    let selected := selectSources t root patterns
    (∀ p, p ∈ selected ↔ ∃ rel, p = ⟨root.parts ++ rel⟩ ∧ t.SourceBelow root rel ∧
      (∃ s ∈ patterns, (WrittenPattern.ofText s).negated = false ∧
        (WrittenPattern.ofText s).Covers (join "/" rel)) ∧
      ∀ s ∈ patterns, (WrittenPattern.ofText s).negated = true →
        ¬(WrittenPattern.ofText s).Covers (join "/" rel)) ∧
    selected.Nodup ∧
    selected.Pairwise (fun p q => ∃ a b, p = ⟨root.parts ++ a⟩ ∧ q = ⟨root.parts ++ b⟩ ∧
      ListedBefore a b) ∧
    (∀ t', t.Reordered t' → selectSources t' root patterns = selected) ∧
    (∀ patterns', (∀ s, s ∈ patterns' ↔ s ∈ patterns) →
      selectSources t root patterns' = selected) ∧
    (∀ s, (WrittenPattern.ofText s).negated = false →
      selected.Sublist (selectSources t root (s :: patterns))) ∧
    ∀ s, (WrittenPattern.ofText s).negated = true →
      (selectSources t root (s :: patterns)).Sublist selected := by
  intro selected
  have ordered : selected.Pairwise fun p q =>
      ∃ a b, p = ⟨root.parts ++ a⟩ ∧ q = ⟨root.parts ++ b⟩ ∧ ListedBefore a b := by
    simp only [selected, selectSources_eq]
    refine List.pairwise_map.2 (((Tree.pairwise_sourceWays proper root).filter _).imp ?_)
    exact fun before => ⟨_, _, rfl, rfl, before⟩
  refine ⟨fun p => ?_, ordered.imp ?_, ordered, fun t' other => ?_, fun patterns' same => ?_,
    fun s included => ?_, fun s negated => ?_⟩
  · simp only [selected, selectSources_eq, List.mem_map, List.mem_filter,
      Tree.mem_sourceWays_iff proper, SourcePatterns.selects_iff]
    constructor
    · rintro ⟨rel, ⟨source, covered⟩, rfl⟩
      exact ⟨rel, rfl, source, covered⟩
    · rintro ⟨rel, rfl, source, covered⟩
      exact ⟨rel, ⟨source, covered⟩, rfl⟩
  · rintro p q ⟨a, b, rfl, rfl, before⟩ same
    exact before.ne (List.append_cancel_left (congrArg Path.parts same))
  · simp only [selected, selectSources_eq, other.sourceWays_eq proper]
  · simp only [selected, selectSources_eq, SourcePatterns.selects_congr same]
  · exact selectSources_sublist t root fun _ => SourcePatterns.selects_cons_of_included included
  · exact selectSources_sublist t root fun _ => SourcePatterns.selects_of_selects_cons negated

namespace SourceShelf

/-- A directory with sources, among them tests, and a directory of tools. -/
def shelf : Tree :=
  .dir [("src", .dir [("orders", .dir [("test_api.py", .file []), ("api.py", .file [])]),
    ("shop.py", .file [])]), ("venv", .dir [("site.py", .file [])])]

/-- The same with the entries of a directory in another order. -/
def turned : Tree :=
  .dir [("src", .dir [("shop.py", .file []),
    ("orders", .dir [("test_api.py", .file []), ("api.py", .file [])])]),
    ("venv", .dir [("site.py", .file [])])]

/-- All sources but tests. -/
def patterns : List String := ["./src/**/*.py", "!**/test_*.py"]

theorem proper : shelf.Proper := by
  have file := Tree.Proper.file []
  have orders : (Tree.dir [("test_api.py", .file []), ("api.py", .file [])]).Proper :=
    .dir (by decide) (by simp) (by simp [file])
  have src : (Tree.dir [("orders", .dir [("test_api.py", .file []), ("api.py", .file [])]),
      ("shop.py", .file [])]).Proper := .dir (by decide) (by simp) (by simp [file, orders])
  have venv : (Tree.dir [("site.py", .file [])]).Proper :=
    .dir (by decide) (by simp) (by simp [file])
  exact .dir (by decide) (by simp) (by simp [src, venv])

theorem reordered : shelf.Reordered turned := .entry [] _ "src" (.perm (.swap _ _ _))

theorem sourceBelow_api : shelf.SourceBelow {} ["src", "orders", "api.py"] where
  below := List.cons_ne_nil _ _
  down := by decide
  file := ⟨[], rfl⟩
  named := by decide +kernel
  searched := by decide +kernel

end SourceShelf

open SourceShelf in
theorem selectSources_exact_shelf :
    shelf.Proper ∧ shelf.Reordered turned ∧
    (WrittenPattern.ofText "*.py").negated = false ∧
    (WrittenPattern.ofText "!src/*").negated = true ∧
    ⟨["src", "orders", "api.py"]⟩ ∈ selectSources shelf {} patterns ∧
    ⟨["src", "orders", "test_api.py"]⟩ ∉ selectSources shelf {} patterns ∧
    selectSources turned {} patterns = selectSources shelf {} patterns ∧
    selectSources shelf {} (patterns.reverse ++ patterns) = selectSources shelf {} patterns ∧
    (selectSources shelf {} patterns).Sublist (selectSources shelf {} ("*.py" :: patterns)) ∧
    (selectSources shelf {} ("!src/*" :: patterns)).Sublist (selectSources shelf {} patterns) := by
  have included : (WrittenPattern.ofText "*.py").negated = false := by decide +kernel
  have negated : (WrittenPattern.ofText "!src/*").negated = true := by decide +kernel
  obtain ⟨exact, -, -, listing, same, more, fewer⟩ := selectSources_exact proper {} patterns
  refine ⟨proper, reordered, included, negated, ?_, fun selected => ?_, listing _ reordered,
    same _ (by simp), more _ included, fewer _ negated⟩
  · exact (exact _).2 ⟨["src", "orders", "api.py"], rfl, sourceBelow_api, by decide +kernel,
      by decide +kernel⟩
  · obtain ⟨rel, way, -, -, none⟩ := (exact _).1 selected
    obtain rfl : ["src", "orders", "test_api.py"] = rel := congrArg Path.parts way
    exact none "!**/test_*.py" (by decide) (by decide +kernel) (by decide +kernel)

end ArchModel
