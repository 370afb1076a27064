import ArchModel.Proofs.Extraction.Accepted
import ArchModel.Proofs.Extraction.MethodTags
import ArchModel.Proofs.Files.Path
import ArchModel.Proofs.Program.Tables
import ArchModel.Usage.Match

/-!
# What becomes of each class

An extraction goes through the classes of a program once. A class gives a component, or one
diagnostic, or nothing at all, and what it gives depends on the components that were accepted before
it and on nothing else.

* `ClassInfo.Handled` says what a class gives. `ClassInfo.handled` shows it of one class, and
  `Program.handled_of_classOutcomes` of all classes of a program.
* `Program.Indexed.idOf?_eq`: the identity of a component is that of the class that it is read off,
  if no file was loaded under two names.
* **`Program.extract_handled`** puts this together.
-/

namespace ArchModel

/-! ## One class -/

/-- What a class gives where some components were accepted before: a component or none, and
diagnostics. -/
inductive ClassInfo.Handled (c : ClassInfo) (rules : GroupRules) (earlier : List Component) :
    Option Component → List Diagnostic → Prop
  /-- It declares no component. -/
  | plain (untagged : c.declaresComponent = false) : Handled c rules earlier none []
  /-- What it says of its component or of the group is unusable. -/
  | refused {e : DeclarationError} (tagged : c.declaresComponent = true)
      (fault : c.component rules = .error e) :
      Handled c rules earlier none
        [{ location := e.location.getD (c.location c.decl.line)
           message := e.fault.message
           error := e.fault.kind }]
  /-- An earlier component has the name of its component. -/
  | repeated {read first : Component} (found : c.component rules = .ok (some read))
      (known : first ∈ earlier) (same : first.name = read.name) :
      Handled c rules earlier none
        [{ location := read.location
           message := ClassOutcome.repeatedMessage read.name first.location
           error := "DuplicateComponentError" }]
  /-- It gives its component, with a relation for each relation tag that can be read and a
  diagnostic for each other one. -/
  | accepted {read : Component} {relations : List Relation} {told : List Diagnostic}
      (found : c.component rules = .ok (some read)) (fresh : ∀ e ∈ earlier, e.name ≠ read.name)
      (reads : List.Forall₂ (fun t r => t.read read.name = .ok r)
        (c.relationTags.filter (·.isReadable)) relations)
      (tells : List.Forall₂ (RelationTag.Told read.name)
        (c.relationTags.filter fun t => !t.isReadable) told) :
      Handled c rules earlier (some { read with relations }) told

namespace ClassInfo

variable {c : ClassInfo} {rules : GroupRules} {earlier : List Component}

/-- A class gives no component and no fault exactly if it has no component tag. -/
theorem component_eq_none_iff : c.component rules = .ok none ↔ c.declaresComponent = false := by
  rw [declaresComponent, Bool.not_eq_false', List.isEmpty_iff, ← List.head?_eq_none_iff]
  unfold component
  split
  · next none => simp [none]
  · next block first =>
    simp only [first, reduceCtorEq, iff_false]
    intro h
    obtain ⟨tag, -, h⟩ := bind_eq_ok.1 h
    split at h
    · cases h
    · obtain ⟨_, -, h⟩ := bind_eq_ok.1 h
      cases h

/-- A component is placed where its class is declared. -/
theorem location_of_component {read : Component} (h : c.component rules = .ok (some read)) :
    read.location = c.location c.decl.line := by
  unfold component at h
  split at h
  · cases h
  · obtain ⟨tag, -, h⟩ := bind_eq_ok.1 h
    dsimp only at h
    split at h
    · cases h
    · obtain ⟨_, -, h⟩ := bind_eq_ok.1 h
      obtain rfl := Option.some.inj (Except.ok.inj h)
      rfl

/-- A class is handled in one of these ways. -/
theorem handled (c : ClassInfo) (rules : GroupRules) (earlier : List Component) :
    c.Handled rules earlier (c.outcome rules earlier).component?
      (c.outcome rules earlier).diagnostics := by
  unfold outcome
  split
  · next e fault =>
    refine .refused ?_ fault
    by_contra untagged
    have none : c.component rules = .ok none :=
      component_eq_none_iff.2 ((Bool.not_eq_true _).mp untagged)
    rw [fault] at none
    cases none
  · next none => exact .plain (component_eq_none_iff.1 none)
  · next read found =>
    split
    · next first known =>
      refine .repeated found (List.mem_of_find?_eq_some known) ?_
      simpa using List.find?_some known
    · next new =>
      obtain ⟨reads, tells⟩ := RelationTag.forall₂_read c.relationTags read.name
      exact .accepted found (by simpa using new) reads tells

end ClassInfo

/-- A relation has the component that its tag was read for as its source. -/
theorem RelationTag.source_of_read {t : RelationTag} {source : String} {r : Relation}
    (h : t.read source = .ok r) : r.source = source := by
  unfold read at h
  split at h
  · cases h
  · obtain rfl := Except.ok.inj h
    rfl

namespace ClassInfo.Handled

variable {c : ClassInfo} {rules : GroupRules} {earlier : List Component} {component : Component}
  {told : List Diagnostic}

theorem source_eq (h : c.Handled rules earlier (some component) told) :
    ∀ r ∈ component.relations, r.source = component.name := by
  cases h with
  | accepted found fresh reads tells =>
    intro r hr
    obtain ⟨i, hi, rfl⟩ := List.getElem_of_mem hr
    exact RelationTag.source_of_read (reads.get (reads.length_eq ▸ hi) hi)

theorem location_eq (h : c.Handled rules earlier (some component) told) :
    component.location = c.location c.decl.line := by
  cases h with
  | accepted found fresh reads tells =>
    have placed := location_of_component found
    exact placed

end ClassInfo.Handled

/-! ## All classes -/

namespace Program

variable {p : Program} {rules : GroupRules}

/-- The components that were accepted before a class are those of the classes in front of it. -/
theorem handled_of_zip {earlier : List Component} {cs : List ClassInfo}
    {before after : List (ClassInfo × ClassOutcome)} {x : ClassInfo × ClassOutcome}
    (h : cs.zip (outcomesFrom rules earlier cs) = before ++ x :: after) :
    x.1.Handled rules (earlier ++ before.filterMap (·.2.component?)) x.2.component?
      x.2.diagnostics := by
  induction cs generalizing earlier before with
  | nil => simp at h
  | cons c cs ih =>
    rw [outcomesFrom, List.zip_cons_cons] at h
    cases before with
    | nil =>
      obtain ⟨rfl, -⟩ := List.cons.inj h
      rw [List.filterMap_nil, List.append_nil]
      exact c.handled rules earlier
    | cons y before =>
      obtain ⟨rfl, rest⟩ := List.cons.inj h
      have handled := ih rest
      rw [List.filterMap_cons]
      cases given : (c.outcome rules earlier).component? with
      | none => simpa [given] using handled
      | some component => simpa [given] using handled

theorem handled_of_classOutcomes {before after : List (ClassInfo × ClassOutcome)}
    {x : ClassInfo × ClassOutcome} (h : p.classOutcomes rules = before ++ x :: after) :
    x.1.Handled rules (before.filterMap (·.2.component?)) x.2.component? x.2.diagnostics :=
  handled_of_zip h

/-- Each class has told what is to be told of it. -/
theorem diagnostics_eq_classOutcomes (p : Program) (rules : GroupRules) :
    (p.extract rules).diagnostics =
      p.diagnostics ++ (p.classOutcomes rules).flatMap (·.2.diagnostics) := by
  have length : (p.extract rules).outcomes.length = p.allClasses.length :=
    length_outcomesFrom rules [] p.allClasses
  have outcomes : (p.classOutcomes rules).map (·.2) = (p.extract rules).outcomes :=
    List.map_snd_zip (Nat.le_of_eq length)
  rw [Extraction.diagnostics, ← outcomes, List.flatMap_map]
  rfl

/-- A component that is extracted was given by a class. -/
theorem exists_handled {component : Component} (h : component ∈ (p.extract rules).components) :
    ∃ x ∈ p.classOutcomes rules, ∃ earlier,
      x.2.component? = some component ∧
        x.1.Handled rules earlier (some component) x.2.diagnostics := by
  rw [← (p.classOutcomes_complete rules).2] at h
  obtain ⟨x, hx, given⟩ := List.mem_filterMap.1 h
  obtain ⟨before, after, whole⟩ := List.append_of_mem hx
  exact ⟨x, hx, _, given, given ▸ handled_of_classOutcomes whole⟩

/-! ## Identities -/

/-- Whether the modules of a program stand at paths that their texts lead back to. -/
def Located (p : Program) : Prop :=
  ∀ m ∈ p.modules.values, m.path.resolve = m.path ∧ m.path.Named

instance (p : Program) : Decidable p.Located :=
  inferInstanceAs (Decidable (∀ m ∈ p.modules.values, m.path.resolve = m.path ∧ m.path.Named))

/-- Whether no file was loaded under two names. -/
def NamedOnce (p : Program) : Prop :=
  ∀ m ∈ p.modules.values, ∀ m' ∈ p.modules.values, m.path = m'.path → m.name = m'.name

instance (p : Program) : Decidable p.NamedOnce :=
  inferInstanceAs (Decidable (∀ m ∈ p.modules.values, ∀ m' ∈ p.modules.values,
    m.path = m'.path → m.name = m'.name))

/-- Files at named paths become modules at such paths. -/
theorem located_ofFiles {root : Option Path} {files : List (Tree × Path)}
    (named : ∀ file ∈ files, file.2.Named) : (ofFiles root files).Located := by
  induction files using List.reverseRecOn with
  | nil => exact fun m hm => by cases hm
  | append_singleton files file ih =>
    have before : (ofFiles root files).Located :=
      ih fun f hf => named f (List.mem_append_left _ hf)
    have last : file.2.Named := named file (by simp)
    rw [ofFiles, List.foldl_append, ← ofFiles, List.foldl_cons, List.foldl_nil]
    generalize result : (ofFiles root files).add file.1 file.2 = q
    cases result ▸ addition (ofFiles root files) file.1 file.2 with
    | stored m place free ids =>
      intro m' hm'
      rw [values_store free, List.mem_append, List.mem_singleton] at hm'
      rcases hm' with known | rfl
      · exact before m' known
      · exact place ▸ ⟨Path.resolve_resolve file.2, last.resolve⟩
    | passedOver | stopped => exact before

section identities

variable (hp : p.Indexed)

include hp

/-- The classes of a module stand in its file. -/
theorem Indexed.path_eq {m : SourceModule} (hm : m ∈ p.modules.values) :
    ∀ c ∈ m.classes.values, c.path = m.path := by
  induction hp with
  | new root => cases hm
  | file t path body free _ ih =>
    rw [values_store free, List.mem_append, List.mem_singleton] at hm
    rcases hm with known | rfl
    · exact ih known
    · intro c hc
      obtain ⟨⟨q, c⟩, stored, rfl⟩ := List.mem_map.1 hc
      have found := Entries.get?_eq_some_iff.2 stored
      have listed := Entries.mem_of_get?_ofList found
      obtain ⟨⟨chain, decl⟩, -, same⟩ := List.mem_map.1 listed
      obtain ⟨-, rfl⟩ := Prod.mk.inj same
      rfl
  | passedOver _ _ _ ih => exact ih hm

/-- The file of a module leads to a module of the file. -/
theorem Indexed.exists_files_get? {m : SourceModule} (hm : m ∈ p.modules.values) :
    ∃ m' ∈ p.modules.values, p.files.get? m.path.text = some m'.name ∧
      m'.path.text = m.path.text := by
  induction hp with
  | new root => cases hm
  | @file p t path body free _ ih =>
    generalize stored : SourceModule.ofBody (moduleName t path p.root).1
      (moduleName t path p.root).2 path body = new at *
    have name : (moduleName t path p.root).1 = new.name := stored ▸ rfl
    rw [name] at free
    rw [values_store free] at hm ⊢
    have files : (p.store t new).files.get? m.path.text =
        if new.path.text = m.path.text then some new.name else p.files.get? m.path.text :=
      Entries.get?_insert ..
    rw [files]
    split
    · next same => exact ⟨new, by simp, rfl, same⟩
    · next other =>
      have known : m ∈ p.modules.values := by
        rcases List.mem_append.1 hm with known | last
        · exact known
        · exact absurd (by rw [List.mem_singleton.1 last]) other
      obtain ⟨m', hm', found⟩ := ih known
      exact ⟨m', List.mem_append_left _ hm', found⟩
  | passedOver _ _ _ ih => exact ih hm

/-- A module is the one of its file, if no file was loaded under two names. -/
theorem Indexed.moduleAt?_path (located : p.Located) (once : p.NamedOnce) {m : SourceModule}
    (hm : m ∈ p.modules.values) : p.moduleAt? (Path.join {} m.path.text) = some m := by
  have tables := hp.consistent
  obtain ⟨resolved, named⟩ := located m hm
  obtain ⟨m', hm', found, text⟩ := hp.exists_files_get? hm
  have path : m'.path = m.path := by
    rw [← (located m' hm').2.join_text, text, named.join_text]
  have name : m'.name = m.name := once m' hm' m hm path
  rw [moduleAt?, named.join_text, resolved, found, Option.bind_some, name]
  exact tables.get?_iff.2 ⟨hm, rfl⟩

theorem Indexed.nodup_ids : (p.allClasses.map (·.id)).Nodup := by
  have keys : p.allClasses.map (·.id) = p.classes.keys := by
    rw [Entries.keys, hp.consistent.classes_eq, List.map_flatMap, allClasses, List.map_flatMap]
    refine List.flatMap_congr fun m hm => ?_
    rw [SourceModule.byId, Entries.values, List.map_map, List.map_map]
    exact List.map_congr_left fun x hx => hp.consistent.class_id m hm x hx
  exact keys ▸ p.classes.nodup_keys

/-- The identity of a component is that of its class. -/
theorem Indexed.idOf?_eq (located : p.Located) (once : p.NamedOnce) {c : ClassInfo}
    (hc : c ∈ p.allClasses) {component : Component}
    (placed : component.location = c.location c.decl.line) : p.idOf? component = some c.id := by
  obtain ⟨m, hm, hc⟩ := List.mem_flatMap.1 hc
  have file : c.path = m.path := hp.path_eq hm c hc
  obtain ⟨⟨q, c⟩, listed, rfl⟩ := List.mem_map.1 hc
  have id : c.id = ⟨m.name, q⟩ := hp.consistent.class_id m hm _ listed
  have found : m.classes.get? c.id.qualname = some c :=
    Entries.get?_eq_some_iff.2 (by rwa [id])
  rw [idOf?, placed, ClassInfo.location, idAt?, file, hp.moduleAt?_path located once hm,
    Option.bind_some, found]
  rfl

end identities

/-- **What an extraction gives.** Each class of each module is gone through once, in the order of
modules and classes. One without a component tag gives nothing; one whose declaration is unusable
gives one diagnostic; one whose component has the name of an earlier component gives one diagnostic
and no relation; any other one gives one component, with a diagnostic for each relation tag that
cannot be read. So no two components have one name, and a relation has its component as its source.
The identity of a component is that of the class that gave it, and no two have one, where no file
was loaded under two names. The diagnostics of the program come first. -/
theorem extract_handled (hp : p.Indexed) (rules : GroupRules) :
    let components := (p.extract rules).components
    let diagnostics := (p.extract rules).diagnostics
    ((p.classOutcomes rules).map (·.1) = p.modules.values.flatMap (·.classes.values) ∧
      components = (p.classOutcomes rules).filterMap (·.2.component?) ∧
      diagnostics = p.diagnostics ++ (p.classOutcomes rules).flatMap (·.2.diagnostics) ∧
      ∀ before c o after, p.classOutcomes rules = before ++ (c, o) :: after →
        c.Handled rules (before.filterMap (·.2.component?)) o.component? o.diagnostics) ∧
    (Component.names components).Nodup ∧
    (∀ component ∈ components, ∀ r ∈ component.relations, r.source = component.name) ∧
    (p.Located → p.NamedOnce →
      (∀ x ∈ p.classOutcomes rules, ∀ component, x.2.component? = some component →
        p.idOf? component = some x.1.id) ∧
      (components.map p.idOf?).Nodup) ∧
    p.diagnostics <+: diagnostics := by
  intro components diagnostics
  obtain ⟨classes, given⟩ := p.classOutcomes_complete rules
  have told : diagnostics = p.diagnostics ++ (p.classOutcomes rules).flatMap (·.2.diagnostics) :=
    p.diagnostics_eq_classOutcomes rules
  refine ⟨⟨classes, given.symm, told, ?_⟩, p.nodup_names_extract rules, ?_, ?_, ?_⟩
  · exact fun before c o after whole => handled_of_classOutcomes whole
  · intro component extracted
    obtain ⟨x, -, earlier, -, handled⟩ := exists_handled extracted
    exact handled.source_eq
  · intro located once
    have ids : ∀ x ∈ p.classOutcomes rules, ∀ component, x.2.component? = some component →
        p.idOf? component = some x.1.id := by
      intro x hx component given
      obtain ⟨before, after, whole⟩ := List.append_of_mem hx
      have handled := given ▸ handled_of_classOutcomes whole
      have listed : x.1 ∈ p.allClasses := classes ▸ List.mem_map_of_mem hx
      exact hp.idOf?_eq located once listed handled.location_eq
    have distinct : ((p.classOutcomes rules).map ((·.id) ∘ (·.1))).Nodup := by
      rw [← List.map_map, classes]
      exact hp.nodup_ids
    have apart : (p.classOutcomes rules).Pairwise fun x y => x.1.id ≠ y.1.id :=
      List.pairwise_map.1 distinct
    refine ⟨ids, List.pairwise_map.2 ?_⟩
    rw [show components = _ from given.symm, List.pairwise_filterMap]
    refine apart.imp_of_mem fun {x y} hx hy apart component hc component' hc' same => apart ?_
    rw [ids x hx component hc, ids y hy component' hc'] at same
    exact Option.some.inj same
  · exact told ▸ List.prefix_append _ _

end Program

/-! ## A market -/

namespace Market

/-- A class with a docstring. -/
def stand (name text : String) : Source.Stmt := .classDef ⟨name, 1, [], [.expr (.text text) 2]⟩

/-- A module at the top of its tree. -/
def file (name : String) (body : List Source.Stmt) : SourceModule :=
  .ofBody name false ⟨[name ++ ".py"]⟩ body

/-- Two files with a class of one name each. The first one has a relation tag without a target. -/
def program : Program :=
  let east := file "east" [stand "Till" "@c4Component\n@c4Relation"]
  let west := file "west"
    [stand "Till" "@c4Component", stand "Bag" "", stand "Shelf" "@c4Component"]
  (({} : Program).store default east).store default west

theorem indexed : program.Indexed :=
  .file default ⟨["west.py"]⟩ _ rfl (.file default ⟨["east.py"]⟩ _ rfl (.new none))

/-- The components and the diagnostics of the market. -/
theorem extract_eq :
    let x := program.extract {}
    Component.names x.components = ["Till", "Shelf"] ∧
      x.components.map program.idOf? = [some ⟨"east", "Till"⟩, some ⟨"west", "Shelf"⟩] ∧
      x.diagnostics.map (·.error) = ["SchemaError", "DuplicateComponentError"] := by
  decide +kernel

end Market

open Market in
/-- What an extraction of the market gives. -/
theorem Program.extract_handled_market :
    program.Indexed ∧ program.Located ∧ program.NamedOnce ∧
      Component.names (program.extract {}).components = ["Till", "Shelf"] ∧
      ((program.extract {}).components.map program.idOf?).Nodup := by
  have located : program.Located := by decide
  have once : program.NamedOnce := by decide
  obtain ⟨-, -, -, identities, -⟩ := extract_handled indexed {}
  exact ⟨indexed, located, once, extract_eq.1, (identities located once).2⟩

end ArchModel
