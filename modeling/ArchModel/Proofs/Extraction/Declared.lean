import ArchModel.Extraction.Scope
import Mathlib.Data.List.Perm.Basic

/-!
# The relation tags of the extracted components

* `ClassInfo.writtenTags` are the relation tags on a class and on its methods, `Program.writtenTags`
  those of the extracted components, each with the name of its component.
* `Program.classOutcomes_complete`: no class and no component is left out of these.
* `Program.allRelations_extract` and `Program.diagnostics_extract`: an extraction reads each of
  these tags once, to a relation or to a diagnostic.
-/

namespace ArchModel

/-! ## Tags -/

/-- A relation tag of a component. -/
structure OwnedTag where
  /-- The name of the component. -/
  owner : String
  tag : RelationTag
  deriving DecidableEq, Repr

/-- What a tag stands for. -/
def OwnedTag.read (t : OwnedTag) : Except DeclarationError Relation := t.tag.read t.owner

/-- The relation tags that are written on a class: in its own docstring and in those of its
methods. -/
def ClassInfo.writtenTags (c : ClassInfo) : List RelationTag :=
  c.relationTagsIn none c.decl.body ++
    c.methods.toList.flatMap fun m => c.relationTagsIn (some m.1) m.2.body

namespace ClassOutcome

/-- The tags of a class as tags of the component that it gives, if it gives one. -/
def owned (o : ClassOutcome) (tags : List RelationTag) : List OwnedTag :=
  match o.component? with
  | some c => tags.map (⟨c.name, ·⟩)
  | none => []

/-- The diagnostics on a class that gives no component. -/
def refusals (o : ClassOutcome) : List Diagnostic :=
  match o.component? with
  | some _ => []
  | none => o.diagnostics

end ClassOutcome

/-- The diagnostics that are not on relation tags. -/
def Extraction.refusals (x : Extraction) : List Diagnostic :=
  x.inherited ++ x.outcomes.flatMap (·.refusals)

namespace Program

/-- The classes of a program, each with what becomes of it. -/
def classOutcomes (p : Program) (rules : GroupRules) : List (ClassInfo × ClassOutcome) :=
  p.allClasses.zip (p.extract rules).outcomes

/-- The relation tags that are written on the classes of the extracted components. -/
def writtenTags (p : Program) (rules : GroupRules) : List OwnedTag :=
  (p.classOutcomes rules).flatMap fun x => x.2.owned x.1.writtenTags

/-- The same tags in the order in which they are read. -/
def readTags (p : Program) (rules : GroupRules) : List OwnedTag :=
  (p.classOutcomes rules).flatMap fun x => x.2.owned x.1.relationTags

end Program

theorem Program.length_outcomesFrom (rules : GroupRules) (earlier : List Component)
    (cs : List ClassInfo) : (outcomesFrom rules earlier cs).length = cs.length := by
  induction cs generalizing earlier with
  | nil => rfl
  | cons c cs ih => exact congrArg (· + 1) (ih _)

/-- Each class has an outcome, and the extracted components are those of the outcomes. -/
theorem Program.classOutcomes_complete (p : Program) (rules : GroupRules) :
    (p.classOutcomes rules).map (·.1) = p.allClasses ∧
      (p.classOutcomes rules).filterMap (·.2.component?) = (p.extract rules).components := by
  have length : (p.extract rules).outcomes.length = p.allClasses.length :=
    length_outcomesFrom rules [] p.allClasses
  refine ⟨List.map_fst_zip (Nat.le_of_eq length.symm), ?_⟩
  calc (p.classOutcomes rules).filterMap (·.2.component?)
    _ = ((p.classOutcomes rules).map (·.2)).filterMap (·.component?) := by
      rw [List.filterMap_map]
      rfl
    _ = (p.extract rules).components := by
      rw [classOutcomes, List.map_snd_zip (Nat.le_of_eq length)]
      rfl

/-- The constructor is read before the other methods, and none is left out. -/
theorem ClassInfo.relationTags_perm (c : ClassInfo) : c.relationTags.Perm c.writtenTags := by
  refine List.Perm.append_left _ (List.Perm.flatMap_right _ ?_)
  exact List.filter_append_perm _ _

theorem Program.readTags_perm (p : Program) (rules : GroupRules) :
    (p.readTags rules).Perm (p.writtenTags rules) := by
  refine List.Perm.flatMap_left _ fun x _ => ?_
  unfold ClassOutcome.owned
  split
  · exact x.1.relationTags_perm.map _
  · exact .refl _

/-! ## Reading -/

/-- What a class gives: no component, or one with the relations of its tags. -/
theorem ClassInfo.outcome_cases (c : ClassInfo) (rules : GroupRules) (earlier : List Component) :
    (c.outcome rules earlier).component? = none ∨ ∃ component : Component,
      c.outcome rules earlier = .accepted
        { component with relations := RelationTag.relations (c.relations component.name) }
        (RelationTag.errors (c.relations component.name)) := by
  unfold outcome
  split
  · exact .inl rfl
  · exact .inl rfl
  · next component _ =>
    split
    · exact .inl rfl
    · exact .inr ⟨component, rfl⟩

/-- A class gives the relations of its tags, and diagnostics for those that give none. -/
theorem ClassInfo.outcome_reads (c : ClassInfo) (rules : GroupRules) (earlier : List Component) :
    let o := c.outcome rules earlier
    let read := (o.owned c.relationTags).map OwnedTag.read
    Component.allRelations o.component?.toList = RelationTag.relations read ∧
      o.diagnostics = o.refusals ++
        (RelationTag.errors read).map DeclarationError.relationDiagnostic := by
  rcases c.outcome_cases rules earlier with none | ⟨component, accepted⟩
  · simp [ClassOutcome.owned, ClassOutcome.refusals, none, Component.allRelations,
      RelationTag.relations, RelationTag.errors]
  · have read (tags : List RelationTag) : (tags.map fun t => (⟨component.name, t⟩ : OwnedTag)).map
        OwnedTag.read = tags.map (·.read component.name) := by
      simp only [List.map_map, Function.comp_def, OwnedTag.read]
    rw [accepted]
    simp only [ClassOutcome.owned, ClassOutcome.refusals, ClassOutcome.component?, read,
      Option.toList_some, ClassOutcome.diagnostics, List.nil_append]
    exact ⟨List.append_nil _, rfl⟩

namespace RelationTag

variable (rs ss : List (Except DeclarationError Relation)) (r : Relation) (e : DeclarationError)

@[simp] theorem relations_cons_ok : relations (.ok r :: rs) = r :: relations rs := rfl

@[simp] theorem relations_cons_error : relations (.error e :: rs) = relations rs := rfl

@[simp] theorem errors_cons_ok : errors (.ok r :: rs) = errors rs := rfl

@[simp] theorem errors_cons_error : errors (.error e :: rs) = e :: errors rs := rfl

theorem relations_append : relations (rs ++ ss) = relations rs ++ relations ss :=
  List.filterMap_append

theorem errors_append : errors (rs ++ ss) = errors rs ++ errors ss := List.filterMap_append

end RelationTag

namespace Program

variable (rules : GroupRules)

/-- Classes give the relations of their tags and diagnostics for those that give none, whatever
components were accepted before. -/
theorem outcomesFrom_reads (earlier : List Component) (cs : List ClassInfo) :
    let outcomes := outcomesFrom rules earlier cs
    let read := ((cs.zip outcomes).flatMap fun x => x.2.owned x.1.relationTags).map OwnedTag.read
    Component.allRelations (outcomes.filterMap (·.component?)) = RelationTag.relations read ∧
      (outcomes.flatMap (·.diagnostics)).Perm (outcomes.flatMap (·.refusals) ++
        (RelationTag.errors read).map DeclarationError.relationDiagnostic) := by
  induction cs generalizing earlier with
  | nil => exact ⟨rfl, .refl _⟩
  | cons c cs ih =>
    obtain ⟨relations, diagnostics⟩ := c.outcome_reads rules earlier
    obtain ⟨relations', diagnostics'⟩ := ih (earlier ++ (c.outcome rules earlier).component?.toList)
    rw [outcomesFrom]
    generalize c.outcome rules earlier = o at *
    generalize outcomesFrom rules (earlier ++ o.component?.toList) cs = outcomes at *
    have first : Component.allRelations ((o :: outcomes).filterMap (·.component?)) =
        Component.allRelations o.component?.toList ++
          Component.allRelations (outcomes.filterMap (·.component?)) := by
      cases ho : o.component? <;> simp [ho, Component.allRelations]
    dsimp only at relations diagnostics relations' diagnostics' ⊢
    rw [List.zip_cons_cons, List.flatMap_cons, List.map_append,
      RelationTag.relations_append, RelationTag.errors_append,
      List.map_append, first, relations, relations', List.flatMap_cons, List.flatMap_cons,
      diagnostics, List.append_assoc, List.append_assoc]
    exact ⟨rfl, .append_left _ ((diagnostics'.append_left _).trans
      (List.perm_append_comm_assoc _ _ _))⟩

variable (p : Program)

/-- The declared relations of an extraction are those that its tags stand for, in order. -/
theorem allRelations_extract :
    Component.allRelations (p.extract rules).components =
      RelationTag.relations ((p.readTags rules).map OwnedTag.read) :=
  (outcomesFrom_reads rules [] p.allClasses).1

/-- The diagnostics of an extraction are, apart from those on classes and files, one for each tag
that stands for no relation. -/
theorem diagnostics_extract :
    (p.extract rules).diagnostics.Perm ((p.extract rules).refusals ++
      (RelationTag.errors ((p.readTags rules).map OwnedTag.read)).map
        DeclarationError.relationDiagnostic) := by
  rw [Extraction.diagnostics, Extraction.refusals, List.append_assoc]
  exact (outcomesFrom_reads rules [] p.allClasses).2.append_left _

end Program

end ArchModel
