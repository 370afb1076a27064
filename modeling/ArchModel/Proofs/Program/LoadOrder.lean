import ArchModel.Proofs.Files.Path
import ArchModel.Proofs.Program.Agreement

/-!
# The order of loading

What a program holds is determined by the modules that its files become, in whatever order they are
loaded, as long as their names are distinct.

* `Program.fileModule?` is the module of a file where its name is free, `Program.Claims` says which
  short name it claims.
* `Program.Holds` gives the tables of a program in terms of a list of modules. Storing one more
  module keeps it (`Holds.store`), and loading establishes it (`holds_load`).
* `Holds.sameTables`: the order of the modules does not show in the tables.
* **`Program.load_perm`** puts this together. `sourceTree` is a tree where it applies.
-/

namespace ArchModel

open Source

theorem moduleName_resolve (t : Tree) (path : Path) (root : Option Path) :
    moduleName t path.resolve (root.map Path.resolve) = moduleName t path root := by
  cases root <;> simp [moduleName]

namespace Program

/-! ## Short names -/

/-- Whether a module claims a short name: below a root, the name that it would have without one,
unless that is its name. -/
def Claims (t : Tree) (root : Option Path) (short : String) (m : SourceModule) : Prop :=
  root.isSome ∧ (moduleName t m.path none).1 = short ∧ short ≠ m.name

instance (t : Tree) (root : Option Path) (short : String) (m : SourceModule) :
    Decidable (Claims t root short m) :=
  inferInstanceAs (Decidable (root.isSome ∧ (moduleName t m.path none).1 = short ∧ short ≠ m.name))

/-- What the table of short names holds for one that some modules claim. -/
def shortEntry : List SourceModule → Option (Option String)
  | [] => none
  | [m] => some (some m.name)
  | _ => some none

theorem shortEntry_concat (ms : List SourceModule) (m : SourceModule) :
    shortEntry (ms ++ [m]) = some (if (shortEntry ms).isSome then none else some m.name) := by
  match ms with
  | [] => rfl
  | [_] => rfl
  | _ :: _ :: _ => rfl

theorem shortEntry_perm {ms ms' : List SourceModule} (h : ms.Perm ms') :
    shortEntry ms = shortEntry ms' := by
  match ms with
  | [] => rw [List.nil_perm.1 h]
  | [_] => rw [List.singleton_perm.1 h]
  | _ :: _ :: _ =>
    match ms', h.length_eq with
    | _ :: _ :: _, _ => rfl

theorem get?_addAlias (p : Program) (t : Tree) (m : SourceModule) (short : String) :
    (p.addAlias t m).get? short =
      if Claims t p.root short m then
        some (if (p.aliases.get? short).isSome then none else some m.name)
      else p.aliases.get? short := by
  unfold addAlias Claims
  dsimp only
  cases p.root with
  | none => simp
  | some root =>
    simp only [Option.isNone_some, Bool.false_eq_true, if_false, Option.isSome_some, true_and]
    by_cases own : (moduleName t m.path none).1 = m.name
    · rw [if_pos own, if_neg fun claimed => claimed.2 (claimed.1.symm.trans own)]
    · rw [if_neg own, Entries.get?_insert]
      by_cases same : (moduleName t m.path none).1 = short
      · subst same
        exact (if_pos rfl).trans (if_pos ⟨rfl, own⟩).symm
      · rw [if_neg same, if_neg fun claimed => same claimed.1]

/-! ## The module of a file -/

/-- The module that a file becomes where its name is free. -/
def fileModule? (t : Tree) (root : Option Path) (path : Path) : Option SourceModule :=
  (readFile t path.resolve).toOption.map
    (.ofBody (moduleName t path root).1 (moduleName t path root).2 path.resolve)

/-- Whether a module is what a file of a plain path can become. -/
structure OfFile (t : Tree) (root : Option Path) (m : SourceModule) : Prop where
  plain : m.path.Plain
  name_eq : m.name = (moduleName t m.path (root.map Path.resolve)).1
  class_id : ∀ x ∈ m.classes.toList, x.2.id = ⟨m.name, x.1⟩

theorem of_fileModule? {t : Tree} {root : Option Path} {path : Path} {m : SourceModule}
    (plain : path.Plain) (h : fileModule? t root path = some m) :
    OfFile t root m ∧ m.name = (moduleName t path root).1 := by
  obtain ⟨body, -, rfl⟩ := Option.map_eq_some_iff.1 h
  refine ⟨⟨plain.resolve, ?_, fun x hx => id_of_mem_declaredClasses hx⟩, rfl⟩
  exact congrArg Prod.fst (moduleName_resolve t path root).symm

theorem moduleFor_of_free {p : Program} {t : Tree} {root : Option Path} {path : Path}
    (rooted : p.root = root.map Path.resolve)
    (free : p.modules.get? (moduleName t path root).1 = none) :
    p.moduleFor t path.resolve = (readFile t path.resolve).map
      (.ofBody (moduleName t path root).1 (moduleName t path root).2 path.resolve) := by
  unfold moduleFor
  rw [rooted, moduleName_resolve]
  cases readFile t path.resolve with
  | error f => rfl
  | ok body => simp [bind, Except.bind, free, Except.map, pure, Except.pure]

/-! ## Loading -/

/-- A program that was made of some modules. -/
structure Holds (p : Program) (t : Tree) (root : Option Path) (ms : List SourceModule) : Prop where
  root_eq : p.root = root.map Path.resolve
  tables : p.Consistent
  ofFile : ∀ m ∈ ms, OfFile t root m
  values_eq : p.modules.values = ms
  files_eq : p.files.toList = ms.map fun m => (m.path.text, m.name)
  aliases_eq : ∀ short, p.aliases.get? short = shortEntry (ms.filter (Claims t root short))

namespace Holds

variable {p q : Program} {t : Tree} {root : Option Path} {ms ms' : List SourceModule}

theorem new (t : Tree) (root : Option Path) :
    Holds { root := root.map Path.resolve } t root [] where
  root_eq := rfl
  tables := (Indexed.new _).consistent
  ofFile m hm := by cases hm
  values_eq := rfl
  files_eq := rfl
  aliases_eq short := rfl

variable (hp : p.Holds t root ms)

include hp

theorem passedOver (diagnostics : List Diagnostic) (stopped : Option SourceFault) :
    Holds { p with diagnostics, stopped } t root ms where
  root_eq := hp.root_eq
  tables := ⟨hp.tables.modules_eq, hp.tables.classes_eq, hp.tables.class_id⟩
  ofFile := hp.ofFile
  values_eq := hp.values_eq
  files_eq := hp.files_eq
  aliases_eq := hp.aliases_eq

theorem store {m : SourceModule} (ofFile : OfFile t root m)
    (free : p.modules.get? m.name = none) : (p.store t m).Holds t root (ms ++ [m]) where
  root_eq := hp.root_eq
  tables := hp.tables.store free ofFile.class_id
  ofFile := by simpa [or_imp, forall_and] using ⟨hp.ofFile, ofFile⟩
  values_eq := by rw [values_store free, hp.values_eq]
  files_eq := by
    -- Another module of the file would have its name.
    have new : m.path.text ∉ p.files.keys := by
      rw [Entries.keys, hp.files_eq, List.map_map]
      intro known
      obtain ⟨m', hm', same⟩ := List.mem_map.1 known
      have path : m'.path = m.path := (hp.ofFile m' hm').plain.text_inj ofFile.plain same
      have name : m'.name = m.name := by rw [(hp.ofFile m' hm').name_eq, ofFile.name_eq, path]
      have stored := hp.tables.get?_iff.2 ⟨hp.values_eq.symm ▸ hm', name⟩
      simp [free] at stored
    rw [List.map_append, ← hp.files_eq]
    exact Entries.toList_insert_of_notMem new
  aliases_eq short := by
    have claims : Claims t p.root short m ↔ Claims t root short m := by
      rw [hp.root_eq, Claims, Claims, Option.isSome_map]
    change (p.addAlias t m).get? short = _
    rw [get?_addAlias, List.filter_append, hp.aliases_eq]
    by_cases own : Claims t root short m
    · rw [if_pos (claims.2 own), List.filter_singleton, decide_eq_true own, cond_true,
        shortEntry_concat]
    · rw [if_neg (own ∘ claims.1), List.filter_singleton, decide_eq_false own, cond_false,
        List.append_nil]

theorem add {path : Path} (plain : path.Plain)
    (free : p.modules.get? (moduleName t path root).1 = none) :
    (p.add t path).1.Holds t root (ms ++ (fileModule? t root path).toList) := by
  unfold Program.add fileModule?
  dsimp only
  rw [moduleFor_of_free hp.root_eq free]
  cases read : readFile t path.resolve with
  | ok body =>
    have file : fileModule? t root path = some (.ofBody (moduleName t path root).1
        (moduleName t path root).2 path.resolve body) := by rw [fileModule?, read]; rfl
    exact hp.store (of_fileModule? plain file).1 free
  | error f =>
    simp only [Except.map, Except.toOption, Option.map_none, Option.toList_none, List.append_nil]
    split
    · exact hp.passedOver _ _
    · exact hp.passedOver _ _

/-- Programs that were made of the same modules have the same tables. -/
theorem sameTables (hq : q.Holds t root ms') (perm : ms.Perm ms') : p.SameTables q where
  modules := by
    rw [hp.tables.modules_eq, hq.tables.modules_eq, hp.values_eq, hq.values_eq]
    exact perm.map _
  files := by
    rw [hp.files_eq, hq.files_eq]
    exact perm.map _
  aliases short := by
    rw [hp.aliases_eq, hq.aliases_eq]
    exact shortEntry_perm (perm.filter _)
  classes := by
    rw [hp.tables.classes_eq, hq.tables.classes_eq, hp.values_eq, hq.values_eq]
    exact perm.flatMap_right _

/-- A short name stands for a module that alone claims it. -/
theorem module?_iff {short : String} {m : SourceModule} (free : p.modules.get? short = none) :
    p.module? short = some m ↔ ms.filter (Claims t root short) = [m] := by
  have stored {m : SourceModule} {claimants : List SourceModule}
      (h : ms.filter (Claims t root short) = m :: claimants) : p.modules.get? m.name = some m := by
    have listed : m ∈ ms.filter (Claims t root short) := h ▸ List.mem_cons_self
    exact hp.tables.get?_iff.2 ⟨hp.values_eq.symm ▸ (List.mem_filter.1 listed).1, rfl⟩
  unfold module?
  rw [free, hp.aliases_eq]
  rcases claimants : ms.filter (Claims t root short) with _ | ⟨m', _ | ⟨m'', claimants'⟩⟩
  · simp [claimants, shortEntry]
  · simp [claimants, shortEntry, stored claimants]
  · simp [claimants, shortEntry]

end Holds

/-- The modules of a program whose files have distinct names are those of the files. -/
theorem holds_load {t : Tree} {root : Option Path} {paths : List Path}
    (plain : ∀ path ∈ paths, path.Plain)
    (distinct : (paths.map fun path => (moduleName t path root).1).Nodup) :
    (load t root paths).Holds t root (paths.filterMap (fileModule? t root)) := by
  induction paths using List.reverseRecOn with
  | nil => exact .new t root
  | append_singleton paths path ih =>
    rw [List.forall_mem_append] at plain
    rw [List.map_append, List.nodup_append] at distinct
    have before := ih plain.1 distinct.1
    -- A module of the last file's name would come from an earlier file of that name.
    have free : (load t root paths).modules.get? (moduleName t path root).1 = none := by
      refine Option.eq_none_iff_forall_ne_some.2 fun m found => ?_
      obtain ⟨listed, named⟩ := before.tables.get?_iff.1 found
      rw [before.values_eq] at listed
      obtain ⟨path', hpath', file⟩ := List.mem_filterMap.1 listed
      refine distinct.2.2 _ (List.mem_map_of_mem hpath') _ (List.mem_singleton_self _) ?_
      rw [← (of_fileModule? (plain.1 path' hpath') file).2, named]
    have last := before.add (plain.2 path (List.mem_singleton_self _)) free
    rw [load, List.foldl_append, List.filterMap_append]
    cases file : fileModule? t root path <;> simpa [file, load] using last

/-! ## Loading in another order -/

section order

variable {t : Tree} {root : Option Path} {paths paths' : List Path}

/-- **Files may be loaded in any order**, provided that the modules that they become have distinct
names: the programs have the same modules and answer alike. A short name that no module has stands
for a module exactly if that module alone claims it. Paths that texts lead to are plain
(`Path.plain_join`). -/
theorem load_perm (plain : ∀ path ∈ paths, path.Plain)
    (distinct : (paths.map fun path => (moduleName t path root).1).Nodup)
    (perm : paths.Perm paths') :
    let p := load t root paths
    let q := load t root paths'
    (∀ name, p.modules.get? name = q.modules.get? name ∧ p.module? name = q.module? name) ∧
    (∀ dotted, p.resolve? dotted = q.resolve? dotted) ∧
    (∀ m e, p.resolveExpr? m e = q.resolveExpr? m e ∧
      p.resolveAnnotation m e = q.resolveAnnotation m e ∧
      p.annotationFault? m e = q.annotationFault? m e) ∧
    (∀ id name, p.method? id name = q.method? id name) ∧
    (∀ file qualname, p.idAt? file qualname = q.idAt? file qualname) ∧
    (∀ id, p.class? id = q.class? id) ∧
    ∀ short m, p.modules.get? short = none →
      (p.module? short = some m ↔ p.modules.values.filter (Claims t root short) = [m]) := by
  intro p q
  have hp := holds_load plain distinct
  have hq := holds_load (fun path hpath => plain path (perm.mem_iff.2 hpath))
    ((perm.map _).nodup_iff.1 distinct)
  have same : p.SameTables q := hp.sameTables hq (perm.filterMap _)
  have claimed (short : String) (m : SourceModule) (free : p.modules.get? short = none) :
      p.module? short = some m ↔ p.modules.values.filter (Claims t root short) = [m] := by
    rw [hp.values_eq]
    exact hp.module?_iff free
  exact ⟨fun name => ⟨congrFun same.get?_modules name, congrFun same.module?_eq name⟩,
    same.resolve?_eq,
    fun m e => ⟨congrFun (same.resolveExpr?_eq m) e, same.resolveAnnotation_eq m e,
      same.annotationFault?_eq m e⟩,
    same.method?_eq, same.idAt?_eq, congrFun same.class?_eq, claimed⟩

end order

/-- Two modules of one short name and a package below a source directory. -/
def sourceTree : Tree :=
  .dir [("core", .dir [("util.py", .file [])]), ("web", .dir [("util.py", .file [])]),
    ("src", .dir [("shop", .dir [("__init__.py", .file []), ("cart.py", .file [])])])]

def sourcePaths : List Path :=
  [⟨["core", "util.py"]⟩, ⟨["web", "util.py"]⟩, ⟨["src", "shop", "cart.py"]⟩]

theorem load_perm_sourceTree :
    (∀ path ∈ sourcePaths, path.Plain) ∧
    (sourcePaths.map fun path => (moduleName sourceTree path (some {})).1) =
      ["core.util", "web.util", "src.shop.cart"] ∧
    (sourcePaths.map fun path => (moduleName sourceTree path none).1) =
      ["util", "util", "shop.cart"] ∧
    (∀ dotted, (load sourceTree (some {}) sourcePaths).resolve? dotted =
      (load sourceTree (some {}) sourcePaths.reverse).resolve? dotted) := by
  have plain : ∀ path ∈ sourcePaths, path.Plain := by decide +kernel
  have names : (sourcePaths.map fun path => (moduleName sourceTree path (some {})).1) =
      ["core.util", "web.util", "src.shop.cart"] := by decide +kernel
  have distinct := names ▸ (by decide : ["core.util", "web.util", "src.shop.cart"].Nodup)
  have answers := load_perm plain distinct (List.reverse_perm sourcePaths).symm
  exact ⟨plain, names, by decide +kernel, answers.2.1⟩

end Program

end ArchModel
