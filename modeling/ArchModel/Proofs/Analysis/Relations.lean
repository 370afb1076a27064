import ArchModel.Analysis.Container
import ArchModel.Proofs.Analysis.Fates
import ArchModel.Proofs.Except
import ArchModel.Proofs.Validation.Results

/-!
# The way of a relation through an analysis

What becomes of a relation tag is told once.

* `ContainerStages.ofProgram` are the stages of an analysis from the indexed program on.
* `ContainerAnalysis.Accounts` and `ContainerAnalysis.ListsOnce` say that what an analysis tells of
  relation tags is what becomes of them, and that a report lists each result once.
* **`ContainerStages.relations_accounted`**: this holds of every analysis, and the problems are
  those of the results.
-/

namespace ArchModel

/-! ## Stages -/

namespace ContainerStages

/-- The stages of an analysis from the indexed program on. -/
def ofProgram (config : ContainerConfig) (sources : List Path) (program : Program)
    (context : ReconcileContext) : ContainerStages :=
  let extraction := program.extract ⟨config.groups, config.policy⟩
  let (components, repeated) := dropDuplicates extraction.components
  let usage := matchUsage program defaultMaxDepth components
  { config, sources, program, extraction, components, repeated
    breaches := checkModel components
    usage
    results := reconcile context components usage.index true }

/-- The components that are extracted, with all their relations. -/
def extracted (config : ContainerConfig) (program : Program) : List Component :=
  (program.extract ⟨config.groups, config.policy⟩).components

theorem run_eq (t : Tree) (config : ContainerConfig) (containers : List String) :
    run t config containers =
      ofProgram config (selectSources t config.root config.source)
        (Program.load t (some config.root) (selectSources t config.root config.source))
        (.ofConfig config containers) := rfl

variable {s : ContainerStages} {options : AnalysisOptions} {a : ContainerAnalysis}

/-- What an analysis takes over from its stages. -/
theorem analysis_eq_ok (h : s.analysis options = .ok a) :
    a.components = tagComponents s.components s.results ∧ a.results = applyTags s.results ∧
      a.diagnostics = s.extraction.diagnostics ∧ a.violations = s.violations := by
  unfold analysis at h
  split at h
  · cases h
  · obtain ⟨groups, -, h⟩ := bind_eq_ok.1 h
    dsimp only at h
    split at h
    · cases h
    · obtain rfl := Except.ok.inj h
      exact ⟨rfl, rfl, rfl, rfl⟩

end ContainerStages

/-! ## Analyses -/

namespace ContainerAnalysis

/-- What an analysis tells of relation tags is what becomes of them: `x` is the extraction, `tags`
are the relation tags, and `kept` the relations that repeat no earlier one. -/
structure Accounts (a : ContainerAnalysis) (x : Extraction) (tags : List OwnedTag)
    (kept : List Relation) (fates : List (OwnedTag × RelationFate)) : Prop where
  /-- Each tag has one fate. -/
  tags : (fates.map (·.1)).Perm tags
  ends : ∀ f ∈ fates, f.1.Ends kept f.2
  /-- There is one diagnostic for each malformed tag. The others are on classes or files. -/
  diagnostics : a.diagnostics.Perm (x.refusals ++ (fates.map (·.2)).filterMap (·.diagnostic?))
  /-- There is one violation for each relation that is dropped. -/
  violations : a.violations.filter (·.rule = Rule.duplicateRelation.word) =
    (fates.map (·.2)).filterMap (·.violation?)
  /-- There is one result for each relation that is checked. -/
  results : a.declared = (fates.map (·.2)).filterMap (·.result?)
  /-- The components have these relations, and no other. -/
  components : Component.allRelations a.components = a.declared.map (·.relation)
  /-- None of them repeats another one. -/
  distinct : ((Component.allRelations a.components).map Relation.key).Nodup

/-- The fields of a report list each result once, under one of three names. -/
structure ListsOnce (a : ContainerAnalysis) (fields : List (String × Json)) : Prop where
  names : (fields.map (·.1)).Nodup
  valid : ("relations", .ofList RelationResult.report a.valid) ∈ fields
  invalid : ("invalidRelations", .ofList RelationResult.report a.invalid) ∈ fields
  undeclared : ("undeclaredRelations", .ofList RelationResult.report a.undeclared) ∈ fields
  all : (a.valid ++ a.invalid ++ a.undeclared).Perm a.results
  once : ∀ r ∈ a.results,
    r ∈ a.valid ∧ r ∉ a.invalid ∧ r ∉ a.undeclared ∨
      r ∉ a.valid ∧ r ∈ a.invalid ∧ r ∉ a.undeclared ∨
      r ∉ a.valid ∧ r ∉ a.invalid ∧ r ∈ a.undeclared

variable (a : ContainerAnalysis)

/-- Each result is listed once. -/
theorem results_perm : (a.valid ++ a.invalid ++ a.undeclared).Perm a.results := by
  have declared : (a.valid ++ a.invalid).Perm a.declared :=
    List.perm_append_comm.trans (List.filter_append_perm _ _)
  exact (declared.append_right _).trans
    (List.perm_append_comm.trans (List.filter_append_perm _ _))

/-- Each result is in one list alone. -/
theorem mem_one_list {r : RelationResult} (h : r ∈ a.results) :
    r ∈ a.valid ∧ r ∉ a.invalid ∧ r ∉ a.undeclared ∨
      r ∉ a.valid ∧ r ∈ a.invalid ∧ r ∉ a.undeclared ∨
      r ∉ a.valid ∧ r ∉ a.invalid ∧ r ∈ a.undeclared := by
  unfold valid invalid declared undeclared
  cases hu : r.undeclared <;> cases hp : r.hasProblems <;> simp [h, hu, hp]

/-- A report on everything lists each result once. -/
theorem report_listsOnce {o : AnalysisOptions} (invalid : o.includeInvalid = true)
    (undeclared : o.includeUndeclared = true) (all : o.invalidOnly = false) :
    ∃ fields, a.report o = .object fields ∧ a.ListsOnce fields := by
  refine ⟨_, rfl, ?_⟩
  simp only [invalid, undeclared, all, Bool.false_eq_true, if_false, Bool.or_false, if_true,
    modelFields, invalidFields, undeclaredFields]
  refine ⟨?_, by simp, by simp, by simp, a.results_perm, fun r => a.mem_one_list⟩
  simp only [List.map_append, List.map_cons, List.map_nil]
  decide

/-- If the relations that nobody declared have problems, the problems are counted by result. -/
theorem problems_eq (h : ∀ r ∈ a.results, r.undeclared = true → r.hasProblems = true) :
    a.problems = (a.results.filter (·.hasProblems)).length := by
  have all : a.undeclared.filter (·.hasProblems) = a.undeclared := List.filter_eq_self.2 fun r hr =>
    h r (List.mem_of_mem_filter hr) (by simpa using (List.mem_filter.1 hr).2)
  calc a.problems
    _ = (a.declared.filter (·.hasProblems) ++ a.undeclared.filter (·.hasProblems)).length := by
      rw [List.length_append, all]
      rfl
    _ = ((a.declared ++ a.undeclared).filter (·.hasProblems)).length := by
      rw [List.filter_append]
    _ = (a.results.filter (·.hasProblems)).length := by
      refine List.Perm.length_eq (List.Perm.filter _ ?_)
      exact List.perm_append_comm.trans (List.filter_append_perm _ _)

end ContainerAnalysis

namespace ContainerStages

section ofProgram

variable {config : ContainerConfig} {sources : List Path} {program : Program}
  {context : ReconcileContext} {options : AnalysisOptions} {a : ContainerAnalysis}

theorem ofProgram_repeated : (ofProgram config sources program context).repeated =
    Rule.duplicateRelation.check (extracted config program) := rfl

theorem ofProgram_breaches : (ofProgram config sources program context).breaches =
    checkModel (dropRepeated [] (extracted config program)) := rfl

/-- The violations that tell of a relation declared twice are those for the dropped ones. -/
theorem filter_violations :
    (ofProgram config sources program context).violations.filter
        (·.rule = Rule.duplicateRelation.word) =
      (Rule.duplicateRelation.check (extracted config program)).map RuleBreach.violation := by
  have word {rule : Rule} {cs : List Component} {b : RuleBreach} (h : b ∈ rule.check cs) :
      b.violation.rule = rule.word := congrArg Rule.word (Rule.rule_of_mem_check h)
  rw [violations, ofProgram_repeated, ofProgram_breaches, List.map_append, List.filter_append,
    List.filter_eq_self.2, List.filter_eq_nil_iff.2, List.append_nil]
  · intro v hv
    obtain ⟨b, hb, rfl⟩ := List.mem_map.1 hv
    obtain ⟨rule, -, hb⟩ := List.mem_flatMap.1 hb
    rw [word hb, decide_eq_true_iff]
    intro same
    obtain rfl := Rule.word_inj same
    rw [duplicateRelation_check_dropRepeated] at hb
    cases hb
  · intro v hv
    obtain ⟨b, hb, rfl⟩ := List.mem_map.1 hv
    rw [word hb, decide_eq_true_iff]

theorem ofProgram_results (config : ContainerConfig) (sources : List Path) (program : Program)
    (context : ReconcileContext) :
    let s := ofProgram config sources program context
    s.results = declaredResults context s.components s.usage.index ++
      undeclaredResults s.components s.usage.index := rfl

/-- The outcomes for declared relations, one for each relation that is kept. -/
theorem declared_eq (h : (ofProgram config sources program context).analysis options = .ok a) :
    let s := ofProgram config sources program context
    a.declared = (Component.allRelations s.components).map
      (context.checkTagged (Component.names s.components) s.usage.index) := by
  have all := ofProgram_results config sources program context
  generalize ofProgram config sources program context = s at *
  dsimp only at all ⊢
  have kept : (applyTags (declaredResults context s.components s.usage.index)).filter
      (!·.undeclared) = applyTags (declaredResults context s.components s.usage.index) := by
    refine List.filter_eq_self.2 fun r hr => ?_
    obtain ⟨result, mem, rfl⟩ := List.mem_map.1 hr
    obtain ⟨relation, -, rfl⟩ := List.mem_map.1 mem
    simp [ReconcileContext.check_undeclared]
  have dropped : (applyTags (undeclaredResults s.components s.usage.index)).filter
      (!·.undeclared) = [] := by
    refine List.filter_eq_nil_iff.2 fun r hr => ?_
    obtain ⟨result, mem, rfl⟩ := List.mem_map.1 hr
    simp [(mem_undeclaredResults mem).1]
  have results : a.results = applyTags (declaredResults context s.components s.usage.index) ++
      applyTags (undeclaredResults s.components s.usage.index) := by
    rw [(analysis_eq_ok h).2.1, all]
    exact List.map_append
  rw [ContainerAnalysis.declared, results, List.filter_append, kept, dropped, List.append_nil,
    applyTags, declaredResults, List.map_map]
  rfl

/-- The relations of the components are those of the outcomes. -/
theorem allRelations_eq (h : (ofProgram config sources program context).analysis options = .ok a) :
    Component.allRelations a.components = a.declared.map (·.relation) := by
  have all := ofProgram_results config sources program context
  have declared := declared_eq h
  generalize ofProgram config sources program context = s at *
  dsimp only at all declared
  have tagged : (declaredResults context s.components s.usage.index).map RelationResult.tagged =
      a.declared.map (·.relation) := by
    rw [declared, declaredResults, List.map_map, List.map_map]
    rfl
  have length : (Component.allRelations s.components).length =
      (a.declared.map (·.relation)).length := by
    rw [declared, List.length_map, List.length_map]
  rw [(analysis_eq_ok h).1, tagComponents, allRelations_withRelations, all, List.map_append, tagged,
    length, List.take_left]

/-- No relation of the components repeats another one. -/
theorem nodup_key_allRelations
    (h : (ofProgram config sources program context).analysis options = .ok a) :
    ((Component.allRelations a.components).map Relation.key).Nodup := by
  have same (names : List String) (usage : UsageIndex) :
      (Relation.key ∘ fun r => r.relation) ∘ context.checkTagged names usage = Relation.key := by
    funext r
    obtain ⟨added, relation⟩ := context.checkTagged_relation names usage r
    simp only [Function.comp_apply, relation]
    rfl
  rw [allRelations_eq h, declared_eq h, List.map_map, List.map_map, same]
  exact nodup_key_dropRepeated (extracted config program)

/-- Results that tell of a relation which nobody declared have problems. -/
theorem hasProblems_of_undeclared
    (h : (ofProgram config sources program context).analysis options = .ok a) :
    ∀ r ∈ a.results, r.undeclared = true → r.hasProblems = true := by
  have all := ofProgram_results config sources program context
  generalize ofProgram config sources program context = s at *
  dsimp only at all
  intro r hr hu
  rw [(analysis_eq_ok h).2.1, all] at hr
  obtain ⟨result, mem, rfl⟩ := List.mem_map.1 hr
  rcases List.mem_append.1 mem with mem | mem
  · obtain ⟨relation, -, rfl⟩ := List.mem_map.1 mem
    rw [ReconcileContext.check_undeclared] at hu
    cases hu
  · exact (mem_undeclaredResults mem).2

/-- What an analysis tells of relation tags is what becomes of them. -/
theorem exists_accounts
    (h : (ofProgram config sources program context).analysis options = .ok a) :
    ∃ fates, a.Accounts (program.extract ⟨config.groups, config.policy⟩)
      (program.writtenTags ⟨config.groups, config.policy⟩)
      (Component.allRelations (ofProgram config sources program context).components) fates := by
  have declared := declared_eq h
  dsimp only at declared
  obtain ⟨-, -, diagnostics, violations⟩ := analysis_eq_ok h
  generalize hcheck : context.checkTagged
    (Component.names (ofProgram config sources program context).components)
    (ofProgram config sources program context).usage.index = check at declared
  -- Tags are read in order, and the relations that they stand for are those of the components.
  have relations := program.allRelations_extract ⟨config.groups, config.policy⟩
  have kept : Component.allRelations (ofProgram config sources program context).components =
      firsts Relation.key [] (Component.allRelations (extracted config program)) :=
    allRelations_dropRepeated [] (extracted config program)
  generalize htags : program.readTags ⟨config.groups, config.policy⟩ = tags at relations
  obtain ⟨told, repeated, results⟩ :=
    fatesFrom_tells OwnedTag.read check [] tags
  rw [← relations] at repeated results
  refine ⟨fatesFrom OwnedTag.read check [] tags, ?_, ?_, ?_, ?_, ?_, allRelations_eq h,
    nodup_key_allRelations h⟩
  · rw [map_fst_fatesFrom, ← htags]
    exact program.readTags_perm _
  · refine ends_of_mem_fatesFrom (fun _ => rfl) (fun r => ?_) (fun r => ?_) ?_
    · rw [← hcheck]
      exact context.checkTagged_relation _ _ r
    · rw [← hcheck]
      exact context.check_undeclared _ _ r
    · rw [← relations, List.nil_append, kept]
      exact fun r hr => hr
  · rw [told, diagnostics, ← htags]
    exact program.diagnostics_extract _
  · rw [repeated, violations, filter_violations, Rule.check, List.map_map]
    rfl
  · rw [results, declared, kept]
    rfl

/-- **No declared relation is lost or counted twice.** Each relation tag of an extracted component
is malformed, repeats an earlier relation or is checked, and this is exactly what the analysis tells
of it. A report on everything lists each result once, and the problems are the results that have
any. -/
theorem relations_accounted
    (h : (ofProgram config sources program context).analysis options = .ok a) :
    (∃ fates, a.Accounts (program.extract ⟨config.groups, config.policy⟩)
      (program.writtenTags ⟨config.groups, config.policy⟩)
      (Component.allRelations (ofProgram config sources program context).components) fates) ∧
    (∀ o : AnalysisOptions, o.includeInvalid = true → o.includeUndeclared = true →
      o.invalidOnly = false → ∃ fields, a.report o = .object fields ∧ a.ListsOnce fields) ∧
    a.problems = (a.results.filter (·.hasProblems)).length :=
  ⟨exists_accounts h, fun _ invalid undeclared all => a.report_listsOnce invalid undeclared all,
    a.problems_eq (hasProblems_of_undeclared h)⟩

end ofProgram

/-! ## A shop -/

/-- A program of two components. One declares a relation on its class and once more on its
constructor, another one on a method, and a relation without a description. -/
def shop : Program :=
  let document (text : String) (line : Nat) : Source.Stmt := .expr (.text text) line
  let method (name : String) (line : Nat) (tags : String) : Source.Stmt := .function
    { name, isAsync := false, line, params := {}, returns := none, decorators := []
      body := [document tags (line + 1)] }
  let orders : Source.ClassDef :=
    ⟨"Orders", 1, [],
      [document "@c4Component\n@c4Relation\nPayments | Charges\n@c4Relation\nStock" 2,
        method "__init__" 5 "@c4Relation\nPayments | Charges",
        method "ship" 7 "@c4Relation\nStock | Reserves"]⟩
  let payments : Source.ClassDef := ⟨"Payments", 9, [], [document "@c4Component" 10]⟩
  ({} : Program).store default
    (.ofBody "shop" false ⟨["shop.py"]⟩ [.classDef orders, .classDef payments])

/-- The analysis of the shop. -/
def shopStages : ContainerStages := ofProgram { name := "shop" } [] shop {}

/-- Of the four tags of the shop one is malformed and one repeats another one. -/
theorem relations_accounted_shop :
    (shop.writtenTags {}).length = 4 ∧ ∃ a, shopStages.analysis {} = .ok a ∧
      a.diagnostics.length = 1 ∧ a.violations.length = 1 ∧
      (∃ fates, a.Accounts (shop.extract {}) (shop.writtenTags {})
        (Component.allRelations shopStages.components) fates) ∧
      (∃ fields, a.report { includeUndeclared := true, includeInvalid := true } = .object fields ∧
        a.ListsOnce fields) ∧
      a.problems = (a.results.filter (·.hasProblems)).length := by
  have told : (shopStages.analysis {}).toOption.any (fun a =>
      a.diagnostics.length == 1 && a.violations.length == 1) = true := by decide +kernel
  refine ⟨by decide +kernel, ?_⟩
  cases h : shopStages.analysis {} with
  | error e =>
    rw [h] at told
    cases told
  | ok a =>
    rw [h] at told
    obtain ⟨diagnostics, violations⟩ : a.diagnostics.length = 1 ∧ a.violations.length = 1 := by
      simpa [Except.toOption] using told
    obtain ⟨accounts, listed, problems⟩ := relations_accounted h
    exact ⟨a, rfl, diagnostics, violations, accounts, listed _ rfl rfl rfl, problems⟩

end ContainerStages

end ArchModel
