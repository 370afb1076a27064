import ArchModel.Program.Method
import ArchModel.Proofs.Entries
import Mathlib.Data.List.Induction

/-!
# Programs made by adding files

`Program.Indexed` holds of every program that adding files can lead to, whatever their trees, paths
and statements are, in whatever order they come, and however often adding fails in between
(`indexed_add`, `indexed_load`).

* `Indexed.class_id`: a class is found under its own identity.
* `Indexed.class_methods`: the methods recorded of a class are those of its body.
* `Indexed.exists_module`: the module of a class is there.
* `Indexed.method?_recorded`: a method is found where it is recorded.
-/

namespace ArchModel

open Source

namespace Program

/-- Programs that adding files can lead to. -/
inductive Indexed : Program → Prop
  /-- Nothing was added yet. -/
  | new (root : Option Path) : Indexed { root }
  /-- A file of some statements was added, the name of which was free. -/
  | file {p : Program} (t : Tree) (path : Path) (body : List Stmt)
      (free : p.modules.get? (moduleName t path p.root).1 = none) (h : Indexed p) :
      Indexed (p.store t (.ofBody (moduleName t path p.root).1 (moduleName t path p.root).2 path
        body))
  /-- A file was passed over. -/
  | passedOver {p : Program} (diagnostics : List Diagnostic) (stopped : Option SourceFault)
      (h : Indexed p) : Indexed { p with diagnostics, stopped }

/-- A module that a file becomes has a free name. -/
theorem moduleFor_eq_ok {p : Program} {t : Tree} {path : Path} {m : SourceModule}
    (h : p.moduleFor t path = .ok m) :
    ∃ body, m = .ofBody (moduleName t path p.root).1 (moduleName t path p.root).2 path body ∧
      p.modules.get? (moduleName t path p.root).1 = none := by
  unfold moduleFor at h
  cases hb : readFile t path with
  | error f => rw [hb] at h; cases h
  | ok body =>
    rw [hb] at h
    refine ⟨body, ?_⟩
    cases hm : p.modules.get? (moduleName t path p.root).1 with
    | some first => simp [bind, Except.bind, hm] at h
    | none =>
      simp only [bind, Except.bind, hm] at h
      cases h
      exact ⟨rfl, rfl⟩

theorem indexed_add {p : Program} (hp : p.Indexed) (t : Tree) (path : Path) :
    (p.add t path).1.Indexed := by
  unfold add
  dsimp only
  split
  · next m hm =>
    obtain ⟨body, rfl, free⟩ := moduleFor_eq_ok hm
    exact .file t path.resolve body free hp
  · split
    · exact .passedOver p.diagnostics _ hp
    · exact .passedOver _ p.stopped hp

theorem indexed_load (t : Tree) (root : Option Path) (paths : List Path) :
    (load t root paths).Indexed := by
  have run : ∀ (paths : List Path) {p : Program}, p.Indexed →
      (paths.foldl (fun p path => (p.add t path).1) p).Indexed := by
    intro paths
    induction paths with
    | nil => exact fun hp => hp
    | cons path paths ih => exact fun hp => ih (indexed_add hp t path)
  exact run paths (.new _)

/-! ## Classes -/

/-- A class of a module carries its name and has the methods of its body. -/
theorem of_mem_declaredClasses {name : String} {path : Path} {body : List Stmt} {c : ClassInfo}
    (h : c ∈ (declaredClasses name path body).values) :
    c.id.module = name ∧ c.methods = methodsOf c.decl.body := by
  obtain ⟨⟨q, c⟩, hc, rfl⟩ := List.mem_map.1 h
  have listed := Entries.mem_of_get?_ofList (Entries.get?_eq_some_iff.2 hc)
  obtain ⟨⟨chain, decl⟩, -, he⟩ := List.mem_map.1 listed
  obtain ⟨-, rfl⟩ := Prod.mk.inj he
  exact ⟨rfl, rfl⟩

/-- A class found after a module was added was found before, or is a class of the module. -/
theorem class?_store {p : Program} {t : Tree} {m : SourceModule} {id : ClassId} {c : ClassInfo}
    (h : (p.store t m).class? id = some c) :
    p.class? id = some c ∨ c.id = id ∧ c ∈ m.classes.values := by
  have fold : (p.store t m).classes =
      (m.classes.values.map fun c => (c.id, c)).foldl (fun e p => e.insert p.1 p.2) p.classes := by
    rw [List.foldl_map]
    rfl
  rw [class?, fold] at h
  refine (Entries.get?_foldl_insert h).imp_right fun h => ?_
  obtain ⟨d, hd, he⟩ := List.mem_map.1 h
  obtain ⟨rfl, rfl⟩ := Prod.mk.inj he
  exact ⟨rfl, hd⟩

theorem Indexed.class_id {p : Program} (hp : p.Indexed) {id : ClassId} {c : ClassInfo}
    (h : p.class? id = some c) : c.id = id := by
  induction hp with
  | new root => cases h
  | file t path body free _ ih =>
    rcases class?_store h with h | h
    · exact ih h
    · exact h.1
  | passedOver _ _ _ ih => exact ih h

theorem Indexed.class_methods {p : Program} (hp : p.Indexed) {id : ClassId} {c : ClassInfo}
    (h : p.class? id = some c) : c.methods = methodsOf c.decl.body := by
  induction hp with
  | new root => cases h
  | file t path body free _ ih =>
    rcases class?_store h with h | h
    · exact ih h
    · exact (of_mem_declaredClasses h.2).2
  | passedOver _ _ _ ih => exact ih h

/-- The module of a class is there. -/
theorem Indexed.exists_module {p : Program} (hp : p.Indexed) {id : ClassId} {c : ClassInfo}
    (h : p.class? id = some c) : ∃ m, p.modules.get? c.id.module = some m := by
  induction hp with
  | new root => cases h
  | @file p t path body free _ ih =>
    let m := SourceModule.ofBody (moduleName t path p.root).1 (moduleName t path p.root).2 path body
    change ∃ m', (p.modules.insert m.name m).get? c.id.module = some m'
    rw [Entries.get?_insert]
    split
    · exact ⟨m, rfl⟩
    · next hne =>
      rcases class?_store h with h | h
      · exact ih h
      · exact absurd (of_mem_declaredClasses h.2).1.symm hne
  | passedOver _ _ _ ih => exact ih h

/-! ## Methods -/

/-- A method of a body is a function that stands in it. -/
theorem mem_of_methodsOf {body : List Stmt} {name : String} {f : Function}
    (h : (methodsOf body).get? name = some f) : .function f ∈ body ∧ f.name = name := by
  induction body using List.reverseRecOn with
  | nil => cases h
  | append_singleton body s ih =>
    have earlier : (methodsOf body).get? name = some f →
        .function f ∈ body ++ [s] ∧ f.name = name :=
      fun h => (ih h).imp_left (List.mem_append_left _)
    rw [methodsOf, List.foldl_append, List.foldl_cons, List.foldl_nil] at h
    split at h
    · next g =>
      rw [Entries.get?_insertIfNew] at h
      split at h
      · next hg =>
        obtain rfl := Option.some.inj h
        exact ⟨List.mem_append_right _ (List.mem_singleton_self _), hg.2⟩
      · exact earlier h
    · exact earlier h

/-- A method is found on a class that records it. -/
theorem method?_recorded {p : Program} {id : ClassId} {name : String} {c : ClassInfo}
    {f : Function} (h : p.method? id name = some (c, f)) :
    ∃ id', p.class? id' = some c ∧ c.methods.get? name = some f := by
  have run : ∀ (fuel : Nat) (seen waiting : List ClassId),
      p.methodFrom? name fuel seen waiting = some (c, f) →
      ∃ id', p.class? id' = some c ∧ c.methods.get? name = some f := by
    intro fuel
    induction fuel with
    | zero => intro seen waiting h; cases h
    | succ fuel ih =>
      intro seen waiting h
      cases waiting with
      | nil => cases h
      | cons id waiting =>
        rw [methodFrom?] at h
        split at h
        · exact ih _ _ h
        · split at h
          · exact ih _ _ h
          · next d hd =>
            split at h
            · next g hg =>
              obtain ⟨rfl, rfl⟩ := Prod.mk.inj (Option.some.inj h)
              exact ⟨id, hd, hg⟩
            · exact ih _ _ h
  exact run _ _ _ h

/-- A method that a class records itself is found there. -/
theorem method?_of_recorded {p : Program} {id : ClassId} {name : String} {c : ClassInfo}
    {f : Function} (hc : p.class? id = some c) (hf : c.methods.get? name = some f) :
    p.method? id name = some (c, f) := by
  simp [method?, methodFrom?, hc, hf]

theorem Indexed.method?_recorded {p : Program} (hp : p.Indexed) {id : ClassId} {name : String}
    {c : ClassInfo} {f : Function} (h : p.method? id name = some (c, f)) :
    p.class? c.id = some c ∧ c.methods.get? name = some f := by
  obtain ⟨id', hc, hf⟩ := Program.method?_recorded h
  exact ⟨(hp.class_id hc).symm ▸ hc, hf⟩

end Program

end ArchModel
