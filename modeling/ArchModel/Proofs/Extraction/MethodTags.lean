import ArchModel.Proofs.Extraction.Declared
import ArchModel.Proofs.Program.Indexed
import ArchModel.Proofs.Validation.Repetition

/-!
# The functions of a class whose tags are read

The methods of a class are recorded by name while its body is gone through, and the relation tags
are read off the recorded ones. Of the functions of one name, such as the parts of a property, only
the first is recorded.

* `toList_methodsOf`: the recorded methods are the functions of a body that no earlier one has the
  name of.
* `ClassInfo.relationTags_eq`: the order in which the tags are read. A function of a new name has
  its tags among them (`relationTags_of_new`), any other one might as well not be there
  (`relationTags_of_known`).
* **`Program.relationTags_read`** puts this together with what the tags are read to.
* `Program.not_forall_function_read`: so not every function has its tags read.
-/

namespace ArchModel

open Source

/-! ## The functions of a body -/

/-- The functions that stand in a body themselves, in order. -/
def functionsIn : List Stmt → List Function
  | [] => []
  | .function f :: ss => f :: functionsIn ss
  | _ :: ss => functionsIn ss

theorem functionsIn_append (ss ss' : List Stmt) :
    functionsIn (ss ++ ss') = functionsIn ss ++ functionsIn ss' := by
  fun_induction functionsIn ss with
  | case1 => rfl
  | case2 f ss ih => exact congrArg (f :: ·) ih
  | case3 s ss other ih => rwa [List.cons_append, functionsIn.eq_3 _ _ other]

/-- The functions of a body that no earlier one has the name of. -/
def recordedIn (body : List Stmt) : List Function :=
  firsts FunctionOf.name [] (functionsIn body)

theorem recordedIn_append (ss ss' : List Stmt) : recordedIn (ss ++ ss') =
    recordedIn ss ++ firsts FunctionOf.name (recordedIn ss) (functionsIn ss') := by
  rw [recordedIn, functionsIn_append, firsts_append, List.nil_append]
  rfl

/-- The names of the recorded functions are those of all functions. -/
theorem mem_map_name_recordedIn {body : List Stmt} {name : String} :
    name ∈ (recordedIn body).map FunctionOf.name ↔
      name ∈ (functionsIn body).map FunctionOf.name := by
  simp only [List.mem_map]
  constructor
  · rintro ⟨f, hf, named⟩
    exact ⟨f, mem_of_mem_firsts hf, named⟩
  · rintro ⟨f, hf, rfl⟩
    have first : ∃ g ∈ [] ++ recordedIn body, g.name = f.name := exists_key_firsts hf
    rwa [List.nil_append] at first

/-- The methods that are recorded of a body are the functions that no earlier one has the name
of. -/
theorem toList_methodsOf (body : List Stmt) :
    (methodsOf body).toList = (recordedIn body).map fun f => (f.name, f) := by
  induction body using List.reverseRecOn with
  | nil => rfl
  | append_singleton body s ih =>
    have keys : (methodsOf body).keys = (recordedIn body).map FunctionOf.name := by
      rw [Entries.keys, ih, List.map_map]
      rfl
    rw [methodsOf, List.foldl_append, List.foldl_cons, List.foldl_nil, ← methodsOf,
      recordedIn_append]
    cases s with
    | function f =>
      change ((methodsOf body).insertIfNew f.name f).toList = _
      rw [functionsIn, functionsIn, Entries.insertIfNew]
      by_cases known : f.name ∈ (recordedIn body).map FunctionOf.name
      · rw [if_pos (Entries.contains_iff.2 (keys ▸ known)), firsts_cons_of_mem known, ih]
        simp [firsts]
      · rw [if_neg (mt Entries.contains_iff.1 (keys ▸ known)), firsts_cons_of_notMem known,
          Entries.toList_insert_of_notMem (keys ▸ known), ih]
        simp [firsts]
    | _ => simpa [functionsIn, firsts] using ih

/-! ## The tags of a class -/

namespace ClassInfo

variable {c : ClassInfo} {above below : List Stmt} {f : Function}

/-- The tags are read in order: those of the class, those of its constructor, and those of the other
methods as they are declared. -/
theorem relationTags_eq (methods : c.methods = methodsOf c.decl.body) :
    c.relationTags = c.relationTagsIn none c.decl.body ++
      ((recordedIn c.decl.body).filter (·.name == constructorName) ++
        (recordedIn c.decl.body).filter (·.name != constructorName)).flatMap fun f =>
          c.relationTagsIn (some f.name) f.body := by
  rw [relationTags, constructorFirst, methods, toList_methodsOf, List.filter_map, List.filter_map,
    ← List.map_append, List.flatMap_map]
  rfl

/-- A function of a new name has its tags read. -/
theorem relationTags_of_new (methods : c.methods = methodsOf c.decl.body)
    (body : c.decl.body = above ++ .function f :: below)
    (new : f.name ∉ (functionsIn above).map FunctionOf.name) :
    c.relationTagsIn (some f.name) f.body <:+: c.relationTags := by
  have recorded : f ∈ recordedIn c.decl.body := by
    rw [body, recordedIn_append, functionsIn,
      firsts_cons_of_notMem (mt mem_map_name_recordedIn.1 new)]
    exact List.mem_append_right _ List.mem_cons_self
  have listed : f ∈ (recordedIn c.decl.body).filter (·.name == constructorName) ++
      (recordedIn c.decl.body).filter (·.name != constructorName) := by
    by_cases constructor : f.name = constructorName <;> simp [recorded, constructor]
  obtain ⟨before, after, whole⟩ := List.append_of_mem listed
  rw [relationTags_eq methods, whole, List.flatMap_append, List.flatMap_cons]
  exact ((List.prefix_append _ _).isInfix.trans (List.suffix_append _ _).isInfix).trans
    (List.suffix_append _ _).isInfix

/-- A class with another body. -/
def withBody (c : ClassInfo) (body : List Stmt) : ClassInfo :=
  { c with decl := { c.decl with body }, methods := methodsOf body }

/-- A function that an earlier one has the name of might as well not be there. -/
theorem relationTags_of_known (methods : c.methods = methodsOf c.decl.body)
    (body : c.decl.body = above ++ .function f :: below)
    (known : f.name ∈ (functionsIn above).map FunctionOf.name) :
    c.relationTags = (c.withBody (above ++ below)).relationTags := by
  have documented : docstring? (above ++ .function f :: below) = docstring? (above ++ below) := by
    cases above with
    | nil => cases known
    | cons s above =>
      cases s with
      | expr value line => cases value <;> rfl
      | _ => rfl
  have recorded : recordedIn (above ++ .function f :: below) = recordedIn (above ++ below) := by
    rw [recordedIn_append, recordedIn_append, functionsIn,
      firsts_cons_of_mem (mem_map_name_recordedIn.2 known)]
  have own : c.relationTagsIn none (above ++ .function f :: below) =
      c.relationTagsIn none (above ++ below) := by
    rw [relationTagsIn, relationTagsIn, DeclaredTags.ofBody, DeclaredTags.ofBody, documented]
  rw [relationTags_eq methods, relationTags_eq rfl, body, own, recorded]
  rfl

end ClassInfo

/-! ## What the tags are read to -/

namespace RelationTag

/-- Whether a tag can be read. -/
def isReadable (t : RelationTag) : Bool := (Schema.relation.parse t.content).isOk

/-- A tag that can be read gives a relation, any other one the fault of its content. -/
theorem read_cases (t : RelationTag) (source : String) :
    t.isReadable = true ∧ (∃ r, t.read source = .ok r) ∨
      t.isReadable = false ∧ ∃ e, Schema.relation.parse t.content = .error e ∧
        t.read source = .error ⟨.relation source e, some t.location⟩ := by
  unfold isReadable read
  cases Schema.relation.parse t.content with
  | error e => exact .inr ⟨rfl, e, rfl, rfl⟩
  | ok tag => exact .inl ⟨rfl, _, rfl⟩

/-- What is told of a tag that cannot be read. -/
inductive Told (source : String) (t : RelationTag) : Diagnostic → Prop
  | malformed {e : SchemaError} (fault : Schema.relation.parse t.content = .error e) :
      Told source t
        { location := t.location
          message := (DeclarationFault.relation source e).message
          error := "SchemaError" }

/-- The tags that can be read give one relation each, the others one diagnostic each. -/
theorem forall₂_read (tags : List RelationTag) (source : String) :
    let read := tags.map (·.read source)
    List.Forall₂ (fun t r => t.read source = .ok r) (tags.filter (·.isReadable)) (relations read) ∧
      List.Forall₂ (Told source) (tags.filter fun t => !t.isReadable)
        ((errors read).map DeclarationError.relationDiagnostic) := by
  dsimp only
  induction tags with
  | nil => exact ⟨.nil, .nil⟩
  | cons t tags ih =>
    obtain ⟨good, bad⟩ := ih
    rcases t.read_cases source with ⟨readable, r, read⟩ | ⟨unreadable, e, fault, read⟩
    · simp only [List.map_cons, read, relations_cons_ok, errors_cons_ok, List.filter_cons,
        readable, Bool.not_true, if_true, Bool.false_eq_true, if_false]
      exact ⟨.cons read good, bad⟩
    · simp only [List.map_cons, read, relations_cons_error, errors_cons_error, List.filter_cons,
        unreadable, Bool.not_false, if_true, Bool.false_eq_true, if_false]
      exact ⟨good, .cons (.malformed fault) bad⟩

end RelationTag

namespace Program

/-- **The relation tags of a recorded class.** Of the functions in its body, one of a new name has
its tags read, and one whose name an earlier function has is passed over as if it were not there.
The tags are read in order: those of the class, those of its constructor, and those of the other
functions as they are declared. Each tag gives one relation or one diagnostic, and these stand in
the order of their tags. -/
theorem relationTags_read {p : Program} (hp : p.Indexed) {id : ClassId} {c : ClassInfo}
    (recorded : p.class? id = some c) (source : String) :
    (∀ above f below, c.decl.body = above ++ .function f :: below →
      (f.name ∉ (functionsIn above).map FunctionOf.name →
        c.relationTagsIn (some f.name) f.body <:+: c.relationTags) ∧
      (f.name ∈ (functionsIn above).map FunctionOf.name →
        c.relationTags = (c.withBody (above ++ below)).relationTags)) ∧
    c.relationTags = c.relationTagsIn none c.decl.body ++
      ((recordedIn c.decl.body).filter (·.name == constructorName) ++
        (recordedIn c.decl.body).filter (·.name != constructorName)).flatMap (fun f =>
          c.relationTagsIn (some f.name) f.body) ∧
    List.Forall₂ (fun t r => t.read source = .ok r) (c.relationTags.filter (·.isReadable))
      (RelationTag.relations (c.relations source)) ∧
    List.Forall₂ (RelationTag.Told source) (c.relationTags.filter fun t => !t.isReadable)
      ((RelationTag.errors (c.relations source)).map DeclarationError.relationDiagnostic) := by
  have methods := hp.class_methods recorded
  refine ⟨fun above f below body => ⟨?_, ?_⟩, c.relationTags_eq methods,
    RelationTag.forall₂_read c.relationTags source⟩
  · exact c.relationTags_of_new methods body
  · exact c.relationTags_of_known methods body

end Program

/-! ## A property of two parts -/

namespace Till

/-- A part of a property with its docstring. -/
def part (line : Nat) (text : String) : Function where
  name := "total"
  isAsync := false
  line := line
  params := {}
  returns := none
  decorators := []
  body := [.expr (.text text) (line + 1)]

/-- The part that reads the property. -/
def reader : Function := part 7 "The sum of the day."

/-- The part that changes it, with a relation tag. -/
def writer : Function := part 11 "@c4Relation\nLedger | Records changes"

/-- A class with such a property. -/
def decl : ClassDef :=
  ⟨"Till", 1, [], [.expr (.text "@c4Component") 2, .function reader, .function writer]⟩

/-- The class as it is recorded. -/
def info : ClassInfo := ⟨⟨"app", "Till"⟩, ⟨["project", "app.py"]⟩, decl, methodsOf decl.body⟩

/-- The program of this class. -/
def program : Program :=
  ({} : Program).store default (.ofBody "app" false info.path [.classDef decl])

theorem indexed : program.Indexed := .file default info.path _ rfl (.new none)

theorem recorded : program.class? ⟨"app", "Till"⟩ = some info := rfl

/-- The tag stands on the writing part, and no tag is read. -/
theorem tags_eq : (info.relationTagsIn (some "total") writer.body).length = 1 ∧
    info.relationTags = [] := by
  decide +kernel

end Till

open Till in
/-- The tags of a property with a tag on its second part. -/
theorem Program.relationTags_read_till :
    program.Indexed ∧ program.class? ⟨"app", "Till"⟩ = some info ∧
      decl.body = [.expr (.text "@c4Component") 2, .function reader] ++ .function writer :: [] ∧
      info.relationTags = (info.withBody decl.body.dropLast).relationTags := by
  have read := (relationTags_read indexed recorded "Till").1
  exact ⟨indexed, recorded, rfl, (read [_, .function reader] writer [] rfl).2 (by decide)⟩

open Till in
/-- Not every function in the body of a class has its tags read. -/
theorem Program.not_forall_function_read :
    ¬∀ (p : Program) (id : ClassId) (c : ClassInfo), p.Indexed → p.class? id = some c →
      ∀ f, .function f ∈ c.decl.body → ∀ t ∈ c.relationTagsIn (some f.name) f.body,
        t ∈ c.relationTags := by
  intro all
  obtain ⟨one, none⟩ := tags_eq
  obtain ⟨t, ht⟩ := List.exists_mem_of_length_pos (Nat.lt_of_lt_of_eq Nat.one_pos one.symm)
  have listed : t ∈ info.relationTags :=
    all program _ info indexed recorded writer (by simp [info, decl]) t ht
  rw [none] at listed
  cases listed

end ArchModel
