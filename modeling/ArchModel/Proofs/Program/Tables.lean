import ArchModel.Proofs.Program.Indexed

/-!
# The tables of a program

A program keeps its modules by name and all their classes by identity. Both tables, and what is
answered from them, stay in step however files are added.

* `Program.Consistent` says that modules stand under their names and that the table of classes holds
  the classes of the modules. A module of a free name keeps it (`Consistent.store`), so it holds of
  every program that adding files can lead to (`Indexed.consistent`).
* `Program.addition` lists the outcomes of adding a file.
* `Indexed.resolve?_stored`, `resolveExpr?_stored`, `resolveAnnotation_stored`, `idAt?_stored`:
  names, expressions, annotations and places in files lead to classes in the table.
* **`Program.tables_of_files`** puts this together for files that are added one after the other.
-/

namespace ArchModel

open Source Text

/-- The classes of a module by their identities. -/
def SourceModule.byId (m : SourceModule) : List (ClassId × ClassInfo) :=
  m.classes.toList.map fun x => (⟨m.name, x.1⟩, x.2)

/-- A class of a module is known by the name of the module and its own qualified name. -/
theorem id_of_mem_declaredClasses {name : String} {path : Path} {body : List Stmt}
    {q : String} {c : ClassInfo} (h : (q, c) ∈ (declaredClasses name path body).toList) :
    c.id = ⟨name, q⟩ := by
  have listed := Entries.mem_of_get?_ofList (Entries.get?_eq_some_iff.2 h)
  obtain ⟨⟨chain, decl⟩, -, same⟩ := List.mem_map.1 listed
  obtain ⟨rfl, rfl⟩ := Prod.mk.inj same
  rfl

namespace Program

/-! ## Consistent tables -/

/-- The tables of a program tell of the same modules. -/
structure Consistent (p : Program) : Prop where
  /-- Modules stand under their own names. -/
  modules_eq : p.modules.toList = p.modules.values.map fun m => (m.name, m)
  /-- The table of classes holds the classes of the modules. -/
  classes_eq : p.classes.toList = p.modules.values.flatMap SourceModule.byId
  /-- Classes know their identities. -/
  class_id : ∀ m ∈ p.modules.values, ∀ x ∈ m.classes.toList, x.2.id = ⟨m.name, x.1⟩

theorem modules_store {p : Program} {t : Tree} {m : SourceModule}
    (free : p.modules.get? m.name = none) :
    (p.store t m).modules.toList = p.modules.toList ++ [(m.name, m)] := by
  refine Entries.toList_insert_of_notMem fun known => ?_
  obtain ⟨first, found⟩ := Entries.mem_keys_iff.1 known
  simp [free] at found

theorem values_store {p : Program} {t : Tree} {m : SourceModule}
    (free : p.modules.get? m.name = none) :
    (p.store t m).modules.values = p.modules.values ++ [m] := by
  rw [Entries.values, modules_store free, List.map_append]
  rfl

namespace Consistent

variable {p : Program} (hp : p.Consistent)

include hp

theorem get?_iff {name : String} {m : SourceModule} :
    p.modules.get? name = some m ↔ m ∈ p.modules.values ∧ m.name = name := by
  rw [Entries.get?_eq_some_iff, hp.modules_eq]
  simp [and_comm, eq_comm]

theorem class?_iff {id : ClassId} {c : ClassInfo} : p.class? id = some c ↔
    ∃ m, p.modules.get? id.module = some m ∧ m.classes.get? id.qualname = some c := by
  rw [class?, Entries.get?_eq_some_iff, hp.classes_eq]
  simp only [List.mem_flatMap, SourceModule.byId, List.mem_map, hp.get?_iff,
    Entries.get?_eq_some_iff]
  constructor
  · rintro ⟨m, hm, ⟨q, c⟩, hc, rfl, rfl⟩
    exact ⟨m, ⟨hm, rfl⟩, hc⟩
  · rintro ⟨m, ⟨hm, named⟩, hc⟩
    exact ⟨m, hm, (id.qualname, c), hc, by rw [named]⟩

theorem classes_store {t : Tree} {m : SourceModule} (free : p.modules.get? m.name = none)
    (ids : ∀ x ∈ m.classes.toList, x.2.id = ⟨m.name, x.1⟩) :
    (p.store t m).classes.toList = p.classes.toList ++ m.byId := by
  have pairs : m.classes.values.map (fun c => (c.id, c)) = m.byId := by
    rw [Entries.values, List.map_map, SourceModule.byId]
    exact List.map_congr_left fun x hx => by simp [ids x hx]
  have fold : (p.store t m).classes =
      m.byId.foldl (fun e x => e.insert x.1 x.2) p.classes := by
    rw [← pairs, List.foldl_map]
    rfl
  have new : (m.byId.map Prod.fst).Nodup := by
    have keys : m.byId.map Prod.fst = m.classes.keys.map (⟨m.name, ·⟩) := by
      simp [SourceModule.byId, Entries.keys]
    rw [keys]
    exact m.classes.nodup_keys.map fun q q' same => (ClassId.mk.inj same).2
  have apart : ∀ id ∈ p.classes.keys, ∀ id' ∈ m.byId.map Prod.fst, id ≠ id' := by
    rintro id known id' hid rfl
    obtain ⟨c, found⟩ := Entries.mem_keys_iff.1 known
    obtain ⟨first, stored, -⟩ := hp.class?_iff.1 found
    obtain ⟨x, hx, rfl⟩ := List.mem_map.1 hid
    obtain ⟨y, -, rfl⟩ := List.mem_map.1 hx
    simp [free] at stored
  rw [fold, Entries.toList_foldl_insert (List.nodup_append.2 ⟨p.classes.nodup_keys, new, apart⟩)]

/-- Tables stay consistent where a module of a free name is stored. -/
theorem store {t : Tree} {m : SourceModule} (free : p.modules.get? m.name = none)
    (ids : ∀ x ∈ m.classes.toList, x.2.id = ⟨m.name, x.1⟩) : (p.store t m).Consistent where
  modules_eq := by
    rw [modules_store free, values_store free, List.map_append, ← hp.modules_eq]
    rfl
  classes_eq := by
    rw [hp.classes_store free ids, values_store free, List.flatMap_append, ← hp.classes_eq]
    simp
  class_id m' hm' := by
    rw [values_store free, List.mem_append, List.mem_singleton] at hm'
    rcases hm' with known | rfl
    · exact hp.class_id m' known
    · exact ids

end Consistent

theorem Indexed.consistent {p : Program} (hp : p.Indexed) : p.Consistent := by
  induction hp with
  | new root => exact ⟨rfl, rfl, fun m hm => by cases hm⟩
  | file t path body free _ ih => exact ih.store free fun x hx => id_of_mem_declaredClasses hx
  | passedOver _ _ _ ih => exact ⟨ih.modules_eq, ih.classes_eq, ih.class_id⟩

/-! ## Adding a file -/

/-- A file that is no module cannot be read as one, or its name is taken. -/
theorem moduleFor_eq_error {p : Program} {t : Tree} {path : Path} {f : FileFault}
    (h : p.moduleFor t path = .error f) :
    readFile t path = .error f ∨ ∃ name first, f = .repeated name first := by
  unfold moduleFor at h
  cases read : readFile t path with
  | error f' =>
    rw [read] at h
    obtain rfl : f' = f := Except.error.inj h
    exact .inl rfl
  | ok body =>
    rw [read] at h
    cases found : p.modules.get? (moduleName t path p.root).1 with
    | none => simp [bind, Except.bind, found, pure, Except.pure] at h
    | some first =>
      simp only [bind, Except.bind, found] at h
      obtain rfl := Except.error.inj h
      exact .inr ⟨_, _, rfl⟩

/-- The outcomes of adding a file. -/
inductive Addition (p : Program) (t : Tree) (path : Path) : Program × Option SourceModule → Prop
  /-- The file becomes a module of a free name. -/
  | stored (m : SourceModule) (place : m.path = path.resolve)
      (free : p.modules.get? m.name = none)
      (ids : ∀ x ∈ m.classes.toList, x.2.id = ⟨m.name, x.1⟩) :
      Addition p t path (p.store t m, some m)
  /-- The file is passed over. -/
  | passedOver (f : FileFault) (harmless : f.fatal? = none) :
      Addition p t path
        ({ p with diagnostics := p.diagnostics ++ [f.diagnostic path.resolve] }, none)
  /-- The file is never looked into. -/
  | stopped (f : FileFault) (fault : SourceFault) (unread : readFile t path.resolve = .error f)
      (fatal : f.fatal? = some fault) :
      Addition p t path ({ p with stopped := p.stopped.or (some fault) }, none)

theorem addition (p : Program) (t : Tree) (path : Path) : Addition p t path (p.add t path) := by
  unfold add
  dsimp only
  split
  · next m found =>
    obtain ⟨body, rfl, free⟩ := moduleFor_eq_ok found
    exact .stored _ rfl free fun x hx => id_of_mem_declaredClasses hx
  · next f found =>
    split
    · next fault fatal =>
      -- A name that is taken stops nothing.
      refine .stopped f fault ((moduleFor_eq_error found).resolve_right ?_) fatal
      rintro ⟨name, first, rfl⟩
      cases fatal
    · next harmless => exact .passedOver f harmless

/-- Where a file becomes a module, the module and its classes are stored at the end and nothing is
passed over. -/
theorem Consistent.add_some {p q : Program} (hp : p.Consistent) {t : Tree} {path : Path}
    {m : SourceModule} (h : p.add t path = (q, some m)) :
    m.path = path.resolve ∧ q.modules.toList = p.modules.toList ++ [(m.name, m)] ∧
      q.classes.toList = p.classes.toList ++ m.byId ∧ q.moduleAt? path = some m ∧
      q.diagnostics = p.diagnostics := by
  cases h ▸ addition p t path with
  | stored m place free ids =>
    refine ⟨place, modules_store free, hp.classes_store free ids, ?_, rfl⟩
    simp [moduleAt?, Program.store, ← place]

/-- Where a file becomes no module, a diagnostic is all that is added, unless the file is never
looked into. -/
theorem add_none {p q : Program} {t : Tree} {path : Path}
    (looked : ∀ f, readFile t path.resolve = .error f → f.fatal? = none)
    (h : p.add t path = (q, none)) :
    ∃ d, q = { p with diagnostics := p.diagnostics ++ [d] } := by
  cases h ▸ addition p t path with
  | passedOver f harmless => exact ⟨_, rfl⟩
  | stopped f fault unread fatal => simp [looked f unread] at fatal

/-- The program after files were added one after the other, each of the tree at its time. -/
def ofFiles (root : Option Path) (files : List (Tree × Path)) : Program :=
  files.foldl (fun p file => (p.add file.1 file.2).1) { root := root.map Path.resolve }

theorem indexed_ofFiles (root : Option Path) (files : List (Tree × Path)) :
    (ofFiles root files).Indexed := by
  induction files using List.reverseRecOn with
  | nil => exact .new _
  | append_singleton files file ih =>
    rw [ofFiles, List.foldl_append]
    exact indexed_add ih file.1 file.2

/-! ## Names lead to stored classes -/

section stored

variable {p : Program} (hp : p.Indexed)

theorem get?_of_module? {name : String} {m : SourceModule} (h : p.module? name = some m) :
    ∃ name, p.modules.get? name = some m := by
  unfold module? at h
  split at h
  · next found => exact ⟨name, h ▸ found⟩
  · obtain ⟨name', -, found⟩ := Option.bind_eq_some_iff.1 h
    exact ⟨name', found⟩

theorem get?_of_owner? {names rest : List String} {m : SourceModule}
    (h : p.owner? names = some (m, rest)) : ∃ name, p.modules.get? name = some m := by
  have run : ∀ count, p.ownerFrom? names count = some (m, rest) →
      ∃ name, p.modules.get? name = some m := by
    intro count
    induction count with
    | zero => intro h; cases h
    | succ count ih =>
      intro h
      rw [ownerFrom?] at h
      split at h
      · next first found =>
        obtain ⟨rfl, -⟩ := Prod.mk.inj (Option.some.inj h)
        exact get?_of_module? found
      · exact ih h
  exact run _ h

include hp

/-- A class of a stored module is stored under its identity. -/
theorem Indexed.class?_id {name q : String} {m : SourceModule} {c : ClassInfo}
    (hm : p.modules.get? name = some m) (hc : m.classes.get? q = some c) :
    p.class? c.id = some c := by
  have tables := hp.consistent
  obtain ⟨known, named⟩ := tables.get?_iff.1 hm
  have id : c.id = ⟨m.name, q⟩ := tables.class_id m known _ (Entries.get?_eq_some_iff.1 hc)
  exact tables.class?_iff.2 ⟨m, by simpa [id, named] using hm, by simpa [id] using hc⟩

theorem Indexed.resolveIn_stored {name : String} {m : SourceModule} {limit : Nat}
    {names : List String} {id : ClassId} (hm : p.modules.get? name = some m)
    (h : p.resolveIn limit m names = some id) : ∃ c, p.class? id = some c := by
  have own {q : String} {c : ClassInfo} {name : String} {m : SourceModule}
      (hm : p.modules.get? name = some m) (hc : m.classes.get? q = some c) :
      ∃ c', p.class? c.id = some c' := ⟨c, hp.class?_id hm hc⟩
  induction limit generalizing name m names with
  | zero =>
    rw [resolveIn] at h
    split at h
    · next c hc => exact Option.some.inj h ▸ own hm hc
    · cases h
  | succ limit ih =>
    unfold resolveIn at h
    split at h
    · next c hc => exact Option.some.inj h ▸ own hm hc
    · cases imported : names.head?.bind m.imports.get? with
      | some target =>
        rw [imported] at h
        cases found : p.owner? (split '.' target ++ names.tail) with
        | none => simp [found] at h
        | some owner =>
          obtain ⟨name', hn⟩ := get?_of_owner? found
          simp only [found] at h
          exact ih hn h
      | none =>
        rw [imported] at h
        obtain ⟨star, -, followed⟩ := List.exists_of_findSome?_eq_some h
        cases found : p.module? star with
        | none => simp [found] at followed
        | some next =>
          obtain ⟨name', hn⟩ := get?_of_module? found
          simp only [found] at followed
          split at followed
          · cases followed
          · exact ih hn followed

theorem Indexed.resolve?_stored {dotted : String} {id : ClassId} (h : p.resolve? dotted = some id) :
    ∃ c, p.class? id = some c := by
  unfold resolve? at h
  split at h
  · next m names found =>
    obtain ⟨name, hm⟩ := get?_of_owner? found
    exact hp.resolveIn_stored hm h
  · cases h

section annotations

variable {name : String} {m : SourceModule} (hm : p.modules.get? name = some m)

include hm

theorem Indexed.resolveExpr?_stored {e : Expr} {id : ClassId} (h : p.resolveExpr? m e = some id) :
    ∃ c, p.class? id = some c := by
  fun_induction resolveExpr? p m e with
  | case1 s e quoted ih => exact ih h
  | case2 => cases h
  | case3 e _ =>
    obtain ⟨dotted, -, found⟩ := Option.bind_eq_some_iff.1 h
    exact hp.resolveIn_stored hm found

theorem Indexed.resolveMember_stored {e : Expr} {id : ClassId} (h : id ∈ p.resolveMember m e) :
    ∃ c, p.class? id = some c := by
  unfold resolveMember at h
  split at h
  · next c found => exact List.mem_singleton.1 h ▸ hp.resolveExpr?_stored hm found
  · split at h
    · split at h
      · next c found => exact List.mem_singleton.1 h ▸ hp.resolveExpr?_stored hm found
      · obtain ⟨inner, -, found⟩ := List.mem_filterMap.1 h
        exact hp.resolveExpr?_stored hm found
    · cases h

theorem Indexed.resolveAnnotation_stored {e : Expr} {id : ClassId}
    (h : id ∈ p.resolveAnnotation m e) : ∃ c, p.class? id = some c := by
  obtain ⟨part, -, found⟩ := List.mem_flatMap.1 (mem_dedupe.1 h)
  exact hp.resolveMember_stored hm found

end annotations

theorem Indexed.idAt?_stored {file : Path} {qualname : String} {id : ClassId}
    (h : p.idAt? file qualname = some id) : ∃ c, p.class? id = some c := by
  obtain ⟨c, found, rfl⟩ := Option.map_eq_some_iff.1 h
  obtain ⟨m, stored, hc⟩ := Option.bind_eq_some_iff.1 found
  obtain ⟨name, -, hm⟩ := Option.bind_eq_some_iff.1 stored
  exact ⟨c, hp.class?_id hm hc⟩

end stored

/-! ## Files added one after the other -/

/-- **The tables of a program agree**, whichever files were added to it, of whichever trees: modules
stand under their names, and the classes are those of the modules, under their identities. The next
file is stored as one module, or leaves the tables alone and is passed over with one diagnostic,
provided that its text is looked into. Names, annotations, places in files and methods lead to
classes in the table only. -/
theorem tables_of_files (root : Option Path) (files : List (Tree × Path)) :
    let p := ofFiles root files
    ((∀ name m, p.modules.get? name = some m → m.name = name) ∧
      (∀ id c, p.class? id = some c ↔
        ∃ m, p.modules.get? id.module = some m ∧ m.classes.get? id.qualname = some c) ∧
      ∀ id c, p.class? id = some c → c.id = id) ∧
    ((∀ t path q m, p.add t path = (q, some m) →
        m.path = path.resolve ∧ q.modules.toList = p.modules.toList ++ [(m.name, m)] ∧
          q.classes.toList = p.classes.toList ++ m.byId ∧ q.moduleAt? path = some m ∧
          q.diagnostics = p.diagnostics) ∧
      ∀ t path q, (∀ f, readFile t path.resolve = .error f → f.fatal? = none) →
        p.add t path = (q, none) → ∃ d, q = { p with diagnostics := p.diagnostics ++ [d] }) ∧
    (∀ dotted id, p.resolve? dotted = some id → ∃ c, p.class? id = some c) ∧
    (∀ name m, p.modules.get? name = some m → ∀ e,
      (∀ id, p.resolveExpr? m e = some id → ∃ c, p.class? id = some c) ∧
      ∀ id ∈ p.resolveAnnotation m e, ∃ c, p.class? id = some c) ∧
    (∀ file qualname id, p.idAt? file qualname = some id → ∃ c, p.class? id = some c) ∧
    ∀ id name c f, p.method? id name = some (c, f) →
      p.class? c.id = some c ∧ c.methods.get? name = some f := by
  intro p
  have hp : p.Indexed := indexed_ofFiles root files
  have tables := hp.consistent
  refine ⟨⟨?_, ?_, ?_⟩, ⟨?_, ?_⟩, ?_, ?_, ?_, ?_⟩
  · exact fun _ _ hm => (tables.get?_iff.1 hm).2
  · exact fun _ _ => tables.class?_iff
  · exact fun _ _ => hp.class_id
  · exact fun _ _ _ _ => tables.add_some
  · exact fun _ _ _ => add_none
  · exact fun _ _ => hp.resolve?_stored
  · exact fun _ _ hm _ =>
      ⟨fun _ => hp.resolveExpr?_stored hm, fun _ => hp.resolveAnnotation_stored hm⟩
  · exact fun _ _ _ => hp.idAt?_stored
  · exact fun _ _ _ _ => hp.method?_recorded

end Program

end ArchModel
