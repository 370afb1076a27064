import ArchModel.Proofs.Program.LoadOrder

/-!
# Names of modules below a root

The name of a file is put together from the packages around it and from the directories between the
root and the outermost package. Where the root is no package itself, it does not show in the name
which of the directories are packages.

* `Path.dottedName` joins the directories below the root and the stem of a file, which is left out
  of a file that stands for its directory.
* `Program.Accepted`: a file becomes a module when files are loaded one after the other.
* **`Program.moduleName_dotted`** says that this is the name of the file, and that a file is turned
  down as the repetition of a module exactly if an earlier file has its name. The files that stand
  for the root itself have no such name (`Program.not_forall_moduleName_dotted`).
-/

namespace ArchModel

open Source

namespace Path

/-- The directories between a root and a file, outermost first. -/
def dirsBelow (path root : Path) : List String :=
  path.resolve.parent.parts.drop root.resolve.parts.length

/-- The last part of a dotted name: the stem of the file, if it does not stand for its directory. -/
def ownPart (path : Path) : List String :=
  if path.resolve.stem = "__init__" then [] else [path.resolve.stem]

/-- The dotted name of a file below a root: the directories that lead to it and its stem, which is
left out of a file that stands for its directory. -/
def dottedName (path root : Path) : String := Text.join "." (path.dirsBelow root ++ path.ownPart)

/-- A file stands below a root. -/
structure Below (path root : Path) : Prop where
  plain : path.Plain
  named : path.resolve.parts ≠ []
  inside : root.resolve.parts <+: path.resolve.parent.parts

/-- A file stands below a root, and not for the root itself. -/
structure ModuleBelow (path root : Path) : Prop extends Below path root where
  other : path.dirsBelow root ≠ [] ∨ path.resolve.stem ≠ "__init__"

instance (path root : Path) : Decidable (path.Below root) :=
  decidable_of_iff (path.Plain ∧ path.resolve.parts ≠ [] ∧
      root.resolve.parts <+: path.resolve.parent.parts)
    ⟨fun ⟨plain, named, inside⟩ => ⟨plain, named, inside⟩,
      fun ⟨plain, named, inside⟩ => ⟨plain, named, inside⟩⟩

instance (path root : Path) : Decidable (path.ModuleBelow root) :=
  decidable_of_iff (path.Below root ∧
      (path.dirsBelow root ≠ [] ∨ path.resolve.stem ≠ "__init__"))
    ⟨fun ⟨below, other⟩ => ⟨below, other⟩, fun ⟨below, other⟩ => ⟨below, other⟩⟩

theorem below?_append (dir : Path) (names : List String) :
    (⟨dir.parts ++ names⟩ : Path).below? dir = some names := by
  have front : dir.parts.isPrefixOf (dir.parts ++ names) = true :=
    List.isPrefixOf_iff_prefix.2 (List.prefix_append _ _)
  rw [below?, if_pos front, List.drop_left]

/-- A name that is not empty has a stem. -/
theorem stem_ne_empty {path : Path} (h : path.name ≠ "") : path.stem ≠ "" := by
  unfold stem
  dsimp only
  split
  · next ext base found =>
    split
    · exact h
    · next both =>
      have base_ne : base ≠ [] := by
        rintro rfl
        simp at both
      simpa using base_ne
  · exact h

theorem Below.parts_eq {path root : Path} (h : path.Below root) :
    path.resolve.parent.parts = root.resolve.parts ++ path.dirsBelow root :=
  (List.prefix_iff_eq_append.1 h.inside).symm

namespace ModuleBelow

variable {path root : Path} (h : path.ModuleBelow root)

include h

theorem stem_ne_empty : path.resolve.stem ≠ "" := by
  refine Path.stem_ne_empty ?_
  rw [name, List.getLast?_eq_some_getLast h.named]
  exact (h.plain.resolve _ (List.getLast_mem h.named)).1

/-- The directories and the stem are named, and there is one of them at least. -/
theorem dottedName_ne_empty : path.dottedName root ≠ "" := by
  have named : ∀ part ∈ path.dirsBelow root ++ path.ownPart, part ≠ "" := by
    intro part hp
    rcases List.mem_append.1 hp with hp | hp
    · have listed := List.dropLast_subset _ (List.mem_of_mem_drop hp)
      exact (h.plain.resolve part listed).1
    · unfold ownPart at hp
      split at hp
      · cases hp
      · exact List.mem_singleton.1 hp ▸ h.stem_ne_empty
  have some_part : path.dirsBelow root ++ path.ownPart ≠ [] := by
    rcases h.other with dirs | stem
    · simp [dirs]
    · simp [ownPart, stem]
  obtain ⟨part, hp⟩ := List.exists_mem_of_ne_nil _ some_part
  intro empty
  have inside : part.toList <:+: (path.dottedName root).toList := Text.infix_join hp
  rw [empty] at inside
  refine named part hp (String.toList_inj.1 ?_)
  simpa using inside

end ModuleBelow

end Path

/-! ## Packages -/

/-- A directory that is no package has none around it. -/
theorem packageDepth_eq_zero {t : Tree} {outer : List String}
    (bare : t.holds ⟨(packageFile :: outer).reverse⟩ = false) : packageDepth t outer = 0 := by
  cases outer with
  | nil => rfl
  | cons name outer => rw [packageDepth, bare]; rfl

/-- The packages around a file are counted up to a directory that is none. -/
theorem packageDepth_append_le {t : Tree} {outer : List String} (bare : packageDepth t outer = 0)
    (inner : List String) : packageDepth t (inner ++ outer) ≤ inner.length := by
  induction inner with
  | nil => exact Nat.le_of_eq bare
  | cons name inner ih =>
    rw [List.cons_append, packageDepth, List.length_cons]
    split <;> omega

/-- However many of the directories below a root are packages, the others are put in front of
them. -/
theorem outer_append_packages (root : Path) {dirs : List String} {depth : Nat}
    (h : depth ≤ dirs.length) :
    ((⟨(root.parts ++ dirs).take ((root.parts ++ dirs).length - depth)⟩ : Path).below? root).getD []
      ++ (root.parts ++ dirs).drop ((root.parts ++ dirs).length - depth) = dirs := by
  rw [List.length_append, Nat.add_sub_assoc h, List.take_length_add_append,
    List.drop_length_add_append, Path.below?_append, Option.getD_some, List.take_append_drop]

section root

variable {t : Tree} {root : Path} (bare : t.holds (root.resolve.child packageFile) = false)

include bare

/-- The name of a file below the root is its dotted name, if that is not empty. -/
theorem moduleName_of_below {path : Path} (h : path.Below root) :
    moduleName t path (some root) =
      (if path.dottedName root = "" then path.resolve.parent.name else path.dottedName root,
        path.resolve.stem == "__init__") := by
  have top : packageDepth t root.resolve.parts.reverse = 0 :=
    packageDepth_eq_zero (by simpa [Path.child] using bare)
  have depth_le : packageDepth t path.resolve.parent.parts.reverse ≤
      (path.dirsBelow root).length := by
    have := packageDepth_append_le top (path.dirsBelow root).reverse
    rwa [← List.reverse_append, ← h.parts_eq, List.length_reverse] at this
  have dirs := outer_append_packages root.resolve depth_le
  rw [← h.parts_eq] at dirs
  have own : (if path.resolve.stem == "__init__" then [] else [path.resolve.stem]) =
      path.ownPart := by simp [Path.ownPart]
  unfold moduleName
  dsimp only
  rw [Option.bind_some, dirs, own]
  rfl

theorem moduleName_of_moduleBelow {path : Path} (h : path.ModuleBelow root) :
    moduleName t path (some root) = (path.dottedName root, path.resolve.stem == "__init__") := by
  rw [moduleName_of_below bare h.toBelow, if_neg h.dottedName_ne_empty]

/-- The files that stand for the root itself have the name of its directory. -/
theorem moduleName_of_root {path : Path} (h : path.Below root) (own : ¬path.ModuleBelow root) :
    moduleName t path (some root) = (root.resolve.name, true) := by
  obtain ⟨dirs, stem⟩ : path.dirsBelow root = [] ∧ path.resolve.stem = "__init__" := by
    by_contra other
    exact own ⟨h, by tauto⟩
  have empty : path.dottedName root = "" := by
    rw [Path.dottedName, dirs, Path.ownPart, if_pos stem]
    rfl
  have parent := h.parts_eq
  rw [dirs, List.append_nil] at parent
  rw [moduleName_of_below bare h, if_pos empty, stem, Path.name, parent]
  rfl

end root

namespace Program

/-! ## Files that become modules -/

section accepted

variable {p : Program} {t : Tree} {root : Option Path} {paths : List Path} {path file : Path}
  {name : String}

/-- A file becomes a module when files are loaded one after the other. -/
def Accepted (t : Tree) (root : Option Path) (paths : List Path) (path : Path) : Prop :=
  ∃ earlier later, paths = earlier ++ path :: later ∧ ((load t root earlier).add t path).2.isSome

theorem load_concat :
    load t root (paths ++ [path]) = ((load t root paths).add t path).1 := by
  rw [load, List.foldl_append]
  rfl

theorem accepted_concat_iff : Accepted t root (paths ++ [path]) file ↔
    Accepted t root paths file ∨ file = path ∧ ((load t root paths).add t path).2.isSome := by
  constructor
  · rintro ⟨earlier, later, whole, becomes⟩
    rcases List.eq_nil_or_concat later with rfl | ⟨later, last, rfl⟩
    · obtain ⟨rfl, same⟩ := List.append_inj' whole rfl
      obtain rfl := List.singleton_injective same
      exact .inr ⟨rfl, becomes⟩
    · rw [List.concat_eq_append, ← List.cons_append, ← List.append_assoc] at whole
      exact .inl ⟨earlier, later, (List.append_inj' whole rfl).1, becomes⟩
  · rintro (⟨earlier, later, rfl, becomes⟩ | ⟨rfl, becomes⟩)
    · exact ⟨earlier, later ++ [path], by simp, becomes⟩
    · exact ⟨paths, [], rfl, becomes⟩

theorem add_of_ok {m : SourceModule} (h : p.moduleFor t path.resolve = .ok m) :
    p.add t path = (p.store t m, some m) := by
  simp only [add, h]

theorem add_of_repeated {first : Path}
    (h : p.moduleFor t path.resolve = .error (.repeated name first)) :
    p.add t path = ({ p with diagnostics :=
      p.diagnostics ++ [(FileFault.repeated name first).diagnostic path.resolve] }, none) := by
  simp only [add, h]
  rfl

theorem root_add : (p.add t path).1.root = p.root := by
  generalize h : p.add t path = outcome
  cases h ▸ addition p t path <;> rfl

theorem root_load (t : Tree) (root : Option Path) (paths : List Path) :
    (load t root paths).root = root.map Path.resolve := by
  induction paths using List.reverseRecOn with
  | nil => rfl
  | append_singleton paths path ih => rw [load_concat, root_add, ih]

/-- A name is taken after a file was added if it was before, or is that of the file. -/
theorem get?_modules_add (rooted : p.root = root.map Path.resolve) :
    (∃ m, (p.add t path).1.modules.get? name = some m) ↔
      (∃ m, p.modules.get? name = some m) ∨
        (p.add t path).2.isSome ∧ (moduleName t path root).1 = name := by
  unfold add
  dsimp only
  split
  · next m found =>
    obtain ⟨body, rfl, free⟩ := moduleFor_eq_ok found
    rw [rooted, moduleName_resolve]
    simp only [Program.store, SourceModule.ofBody, Entries.get?_insert, Option.isSome_some,
      true_and]
    split <;> simp [*]
  · split <;> simp

/-- The names that are taken are those of the files that became modules. -/
theorem get?_modules_load : (∃ m, (load t root paths).modules.get? name = some m) ↔
    ∃ file, Accepted t root paths file ∧ (moduleName t file root).1 = name := by
  induction paths using List.reverseRecOn with
  | nil => simp [load, Accepted]
  | append_singleton paths path ih =>
    rw [load_concat, get?_modules_add (root_load t root paths), ih]
    simp only [accepted_concat_iff, or_and_right, exists_or, and_assoc, exists_eq_left]

/-- A file that can be read becomes a module if its name is free, and is passed over otherwise. -/
theorem add_of_read {body : List Stmt} (rooted : p.root = root.map Path.resolve)
    (read : readFile t path.resolve = .ok body) :
    (∀ first, p.modules.get? (moduleName t path root).1 = some first →
      p.add t path = ({ p with diagnostics := p.diagnostics ++
        [(FileFault.repeated (moduleName t path root).1 first.path).diagnostic path.resolve] },
        none)) ∧
    (p.modules.get? (moduleName t path root).1 = none →
      ∃ m, p.add t path = (p.store t m, some m) ∧ m.name = (moduleName t path root).1 ∧
        m.path = path.resolve) := by
  constructor
  · intro first taken
    refine add_of_repeated ?_
    unfold moduleFor
    rw [read, rooted, moduleName_resolve]
    simp only [bind, Except.bind, taken]
    rfl
  · intro free
    have found := moduleFor_of_free rooted free
    rw [read] at found
    exact ⟨_, add_of_ok found, rfl, rfl⟩

end accepted

/-! ## Dotted names -/

/-- **Below a root that is no package** the name of a file consists of the directories that lead to
it and of its stem, whichever of the directories are packages; only the files that stand for the
root itself have the name of its directory. A file that can be read is turned down as the repetition
of a module exactly if a file of its name became one before, and becomes one itself otherwise. -/
theorem moduleName_dotted {t : Tree} {root : Path}
    (bare : t.holds (root.resolve.child packageFile) = false) :
    (∀ path, path.ModuleBelow root →
      moduleName t path (some root) = (path.dottedName root, path.resolve.stem == "__init__")) ∧
    (∀ path, path.Below root → ¬path.ModuleBelow root →
      moduleName t path (some root) = (root.resolve.name, true)) ∧
    ∀ before path body, (∀ file ∈ before, file.ModuleBelow root) → path.ModuleBelow root →
      readFile t path.resolve = .ok body →
      let p := load t (some root) before
      let repeated := ∃ file, Accepted t (some root) before file ∧
        file.dottedName root = path.dottedName root
      ((∃ first, p.add t path = ({ p with diagnostics := p.diagnostics ++
          [(FileFault.repeated (path.dottedName root) first).diagnostic path.resolve] }, none)) ↔
        repeated) ∧
      (¬repeated → ∃ m, p.add t path = (p.store t m, some m) ∧
        m.name = path.dottedName root ∧ m.path = path.resolve) := by
  refine ⟨fun path => moduleName_of_moduleBelow bare, fun path => moduleName_of_root bare, ?_⟩
  intro before path body below_before below read p repeated
  have named {file : Path} (h : file.ModuleBelow root) :
      (moduleName t file (some root)).1 = file.dottedName root :=
    congrArg Prod.fst (moduleName_of_moduleBelow bare h)
  have rooted : p.root = (some root).map Path.resolve := root_load t (some root) before
  obtain ⟨taken, free⟩ := add_of_read rooted read
  rw [named below] at taken free
  have known : (∃ m, p.modules.get? (path.dottedName root) = some m) ↔ repeated := by
    rw [get?_modules_load]
    refine exists_congr fun file => and_congr_right fun accepted => ?_
    obtain ⟨earlier, later, rfl, -⟩ := accepted
    rw [named (below_before file (by simp))]
  refine ⟨⟨fun ⟨first, rejected⟩ => known.1 ?_, fun again => ?_⟩, fun new => ?_⟩
  · by_contra unknown
    obtain ⟨m, stored, -⟩ := free (Option.eq_none_iff_forall_ne_some.2 fun m hm => unknown ⟨m, hm⟩)
    cases congrArg Prod.snd (stored.symm.trans rejected)
  · obtain ⟨first, found⟩ := known.2 again
    exact ⟨first.path, taken first found⟩
  · exact free (Option.eq_none_iff_forall_ne_some.2 fun m hm => new (known.1 ⟨m, hm⟩))

/-! ## A package in a directory that is none -/

namespace Lane

/-- A file and a package of one name, and a package in a directory that is none. -/
def tree : Tree :=
  .dir [("project", .dir [("core.py", .file []), ("core", .dir [("__init__.py", .file [])]),
    ("shop", .dir [("cart", .dir [("__init__.py", .file []), ("items.py", .file [])])])])]

def root : Path := ⟨["project"]⟩

def core : Path := ⟨["project", "core.py"]⟩

def package : Path := ⟨["project", "core", "__init__.py"]⟩

def items : Path := ⟨["project", "shop", "cart", "items.py"]⟩

end Lane

/-- The package is turned down because the file has its name. -/
theorem moduleName_dotted_lane :
    Lane.tree.holds (Lane.root.resolve.child packageFile) = false ∧
    (∀ file ∈ [Lane.core, Lane.package, Lane.items], file.ModuleBelow Lane.root) ∧
    (∃ body, readFile Lane.tree Lane.package.resolve = .ok body) ∧
    moduleName Lane.tree Lane.items (some Lane.root) = ("shop.cart.items", false) ∧
    ∃ first, (load Lane.tree (some Lane.root) [Lane.core]).add Lane.tree Lane.package =
      ({ load Lane.tree (some Lane.root) [Lane.core] with diagnostics :=
        (load Lane.tree (some Lane.root) [Lane.core]).diagnostics ++
          [(FileFault.repeated "core" first).diagnostic Lane.package.resolve] }, none) := by
  have bare : Lane.tree.holds (Lane.root.resolve.child packageFile) = false := by decide +kernel
  have below : ∀ file ∈ [Lane.core, Lane.package, Lane.items], file.ModuleBelow Lane.root := by
    decide +kernel
  have readable : (readFile Lane.tree Lane.package.resolve).toOption.isSome := by decide +kernel
  obtain ⟨body, read⟩ : ∃ body, readFile Lane.tree Lane.package.resolve = .ok body := by
    cases read : readFile Lane.tree Lane.package.resolve with
    | ok body => exact ⟨body, rfl⟩
    | error f => simp [read, Except.toOption] at readable
  obtain ⟨names, -, loads⟩ := moduleName_dotted bare
  have accepted : Accepted Lane.tree (some Lane.root) [Lane.core] Lane.core :=
    ⟨[], [], rfl, by decide +kernel⟩
  have again := (loads [Lane.core] Lane.package body (by simp [below]) (below _ (by simp)) read).1.2
    ⟨Lane.core, accepted, by decide +kernel⟩
  refine ⟨bare, below, ⟨body, read⟩, ?_, ?_⟩
  · rw [names Lane.items (below _ (by simp))]
    decide +kernel
  · rw [show "core" = Lane.package.dottedName Lane.root by decide +kernel]
    exact again

/-- A file that stands for the root itself has a name, though nothing leads to it. -/
theorem not_forall_moduleName_dotted :
    ¬∀ (t : Tree) (root path : Path), t.holds (root.resolve.child packageFile) = false →
      path.Below root → path.resolve ≠ root.resolve.child packageFile →
      moduleName t path (some root) =
        (path.dottedName root, path.resolve.stem == "__init__") := by
  intro all
  have named := all (.dir [("project", .dir [("__init__.pyi", .file [])])]) ⟨["project"]⟩
    ⟨["project", "__init__.pyi"]⟩ (by decide +kernel) (by decide +kernel) (by decide +kernel)
  revert named
  decide +kernel

end Program

end ArchModel
