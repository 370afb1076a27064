import ArchModel.Proofs.BreadthFirst
import ArchModel.Proofs.Program.Annotations
import Mathlib.Algebra.Order.BigOperators.Group.List
import Mathlib.Algebra.Order.Group.Nat

/-!
# Where methods are found

The search for a method goes through a class and the classes that its bases stand for, breadth
first. It ends at a class that records the method, and it is stopped by a class with a base that is
a text which is never looked into.

* `Program.basesAt` are the steps of the search, `Program.halt?` says what ends it at a class.
* `Program.firstFrom?_halt?`: what is found and what stops the search are those of one search.
  `Program.searches_halt?`: the number of bases bounds it.
* **`Program.searchMethod_nearest`** says what the search comes to. It finds a method in `Kite`,
  where bases lead in a circle, and is stopped in `Marred`.
-/

namespace ArchModel

open Source Text BreadthFirst

namespace Program

/-- The classes that the bases of the class of an identity stand for. -/
def basesAt (p : Program) (id : ClassId) : List ClassId :=
  match p.class? id with
  | some c => p.bases c
  | none => []

/-- A class records a method. -/
def Records (p : Program) (name : String) (id : ClassId) : Prop :=
  ∃ c f, p.class? id = some c ∧ c.methods.get? name = some f

instance (p : Program) (name : String) (id : ClassId) : Decidable (p.Records name id) :=
  decidable_of_iff (((p.class? id).bind (·.methods.get? name)).isSome = true) <| by
    simp only [Option.isSome_iff_exists, Option.bind_eq_some_iff, Records]
    exact exists_comm.trans (exists₂_congr fun c f => Iff.rfl)

/-- A class has a base that is never looked into. -/
def Unreadable (p : Program) (id : ClassId) : Prop :=
  ∃ c f, p.class? id = some c ∧ baseFault? c = some f

/-- The search for a method goes no further than a class. -/
def Halts (p : Program) (name : String) (id : ClassId) : Prop :=
  p.Records name id ∨ p.Unreadable id

/-- What ends the search for a method at a class: the method there, or a base that is never looked
into. -/
def halt? (p : Program) (name : String) (id : ClassId) :
    Option (Except SourceFault (ClassInfo × Function)) :=
  match p.class? id with
  | some c =>
    match c.methods.get? name with
    | some f => some (.ok (c, f))
    | none => (baseFault? c).map .error
  | none => none

/-- What a search comes to that ends somewhere or nowhere. -/
def outcome : Option (Except SourceFault (ClassInfo × Function)) →
    Except SourceFault (Option (ClassInfo × Function))
  | some (.ok found) => .ok (some found)
  | some (.error f) => .error f
  | none => .ok none

section outcome

variable {r : Option (Except SourceFault (ClassInfo × Function))}

theorem outcome_eq_ok_none_iff : outcome r = .ok none ↔ r = none := by
  rcases r with _ | _ | _ <;> simp [outcome]

theorem outcome_eq_ok_some_iff {found : ClassInfo × Function} :
    outcome r = .ok (some found) ↔ r = some (.ok found) := by
  rcases r with _ | _ | _ <;> simp [outcome]

theorem outcome_eq_error_iff {fault : SourceFault} :
    outcome r = .error fault ↔ r = some (.error fault) := by
  rcases r with _ | _ | _ <;> simp [outcome]

end outcome

/-! ## What ends the search -/

section halt

variable {p : Program} {name : String} {id : ClassId} {c : ClassInfo} {f : Function}

theorem halt?_of_unknown (h : p.class? id = none) : p.halt? name id = none := by
  rw [halt?, h]

theorem halt?_of_recorded (hc : p.class? id = some c) (hf : c.methods.get? name = some f) :
    p.halt? name id = some (.ok (c, f)) := by
  simp [halt?, hc, hf]

theorem halt?_of_not_recorded (hc : p.class? id = some c) (hf : c.methods.get? name = none) :
    p.halt? name id = (baseFault? c).map .error := by
  simp [halt?, hc, hf]

/-- What ends the search at a class is a method that it records, or a base of a class that records
none. -/
theorem halt?_eq_some_iff {r : Except SourceFault (ClassInfo × Function)} :
    p.halt? name id = some r ↔ ∃ c, p.class? id = some c ∧
      ((∃ f, c.methods.get? name = some f ∧ r = .ok (c, f)) ∨
        c.methods.get? name = none ∧ ∃ fault, baseFault? c = some fault ∧ r = .error fault) := by
  cases hc : p.class? id with
  | none => simp [halt?_of_unknown hc]
  | some c =>
    cases hf : c.methods.get? name with
    | none => simp [halt?_of_not_recorded hc hf, hf, eq_comm]
    | some f => simp [halt?_of_recorded hc hf, hf, eq_comm]

theorem halt?_ne_none_iff : p.halt? name id ≠ none ↔ p.Halts name id := by
  unfold Halts Records Unreadable
  cases hc : p.class? id with
  | none => simp [halt?_of_unknown hc]
  | some c =>
    cases hf : c.methods.get? name with
    | none => simp [halt?_of_not_recorded hc hf, hf, Option.ne_none_iff_exists']
    | some f => simp [halt?_of_recorded hc hf, hf]

end halt

/-! ## The bounded search -/

/-- What is found and what stops the search are those of one search. -/
theorem firstFrom?_halt? (p : Program) (name : String) (bound : Nat)
    (seen waiting : List ClassId) :
    firstFrom? p.basesAt (p.halt? name) bound seen waiting =
      match (p.passedFrom name bound seen waiting).findSome? baseFault? with
      | some f => some (.error f)
      | none => (p.methodFrom? name bound seen waiting).map .ok := by
  induction bound generalizing seen waiting with
  | zero => rfl
  | succ bound ih =>
    cases waiting with
    | nil => rfl
    | cons id waiting =>
      rw [firstFrom?, passedFrom, methodFrom?]
      by_cases known : id ∈ seen
      · rw [if_pos known, if_pos known, if_pos known, ih]
      rw [if_neg known, if_neg known, if_neg known]
      cases hc : p.class? id with
      | none => simp [halt?_of_unknown hc, basesAt, hc, ih]
      | some c =>
        cases hf : c.methods.get? name with
        | some f => simp [halt?_of_recorded hc hf, Entries.contains, hf]
        | none =>
          simp only [halt?_of_not_recorded hc hf, Entries.contains, hf, basesAt, hc, ih]
          cases fault : baseFault? c <;> simp [fault]

/-- The steps from all classes are no more than all bases. -/
theorem stepsLeft_basesAt_le (p : Program) :
    stepsLeft p.basesAt p.classes.keys [] ≤ p.baseCount := by
  rw [baseCount_eq_length, stepsLeft, Entries.keys, Entries.values, List.flatMap_map,
    List.flatMap_map, List.length_flatMap, List.length_flatMap]
  refine List.sum_le_sum fun x hx => ?_
  have hc : p.class? x.1 = some x.2 := Entries.get?_eq_some_iff.2 hx
  simp only [List.not_mem_nil, if_false, basesAt, hc, bases]
  split
  · exact List.length_filterMap_le _ _
  · exact Nat.zero_le _

/-- **The search ends by itself**, and what it comes to is what the search without a bound comes
to. -/
theorem searches_halt? (p : Program) (id : ClassId) (name : String) :
    ∃ r, Searches p.basesAt (p.halt? name) [] [id] r ∧ p.searchMethod id name = outcome r := by
  have closed (id : ClassId) (h : p.basesAt id ≠ []) : id ∈ p.classes.keys := by
    refine Entries.mem_keys_iff.2 (Option.ne_none_iff_exists'.1 fun unknown => h ?_)
    rw [basesAt, class?, unknown]
  have enough : [id].length + stepsLeft p.basesAt p.classes.keys [] < p.baseCount + 2 := by
    have := p.stepsLeft_basesAt_le
    rw [List.length_singleton]
    omega
  refine ⟨_, searches_firstFrom? closed enough, ?_⟩
  rw [firstFrom?_halt?, searchMethod, methodFault?, method?]
  cases (p.passedFrom name (p.baseCount + 2) [] [id]).findSome? baseFault? with
  | some f => rfl
  | none => cases p.methodFrom? name (p.baseCount + 2) [] [id] <;> rfl

/-! ## The nearest class -/

section nearest

variable {p : Program} {name : String} {id : ClassId}

/-- Where a search ends is the first class at which it can. -/
theorem eq_some_halt?_iff {r : Option (Except SourceFault (ClassInfo × Function))}
    (h : Searches p.basesAt (p.halt? name) [] [id] r)
    {b : Except SourceFault (ClassInfo × Function)} :
    r = some b ↔ ∃ k d, First p.basesAt (p.Halts name) id k d ∧ p.halt? name d = some b := by
  have same : (p.halt? name · ≠ none) = p.Halts name := funext fun _ => propext halt?_ne_none_iff
  rw [h.eq_some_iff, same]

theorem searchMethod_eq_none_iff : p.searchMethod id name = .ok none ↔
    ∀ k d, After (Leads p.basesAt) k id d → ¬p.Halts name d := by
  obtain ⟨r, search, came⟩ := searches_halt? p id name
  rw [came, outcome_eq_ok_none_iff, search.eq_none_iff]
  simp only [← halt?_ne_none_iff, not_not]

theorem searchMethod_eq_some_iff {c : ClassInfo} {f : Function} :
    p.searchMethod id name = .ok (some (c, f)) ↔
      ∃ k d, First p.basesAt (p.Halts name) id k d ∧
        p.class? d = some c ∧ c.methods.get? name = some f := by
  obtain ⟨r, search, came⟩ := searches_halt? p id name
  rw [came, outcome_eq_ok_some_iff, eq_some_halt?_iff search]
  simp [halt?_eq_some_iff]

theorem searchMethod_eq_error_iff {fault : SourceFault} :
    p.searchMethod id name = .error fault ↔
      ∃ k d, First p.basesAt (p.Halts name) id k d ∧
        ∃ c, p.class? d = some c ∧ c.methods.get? name = none ∧ baseFault? c = some fault := by
  obtain ⟨r, search, came⟩ := searches_halt? p id name
  rw [came, outcome_eq_error_iff, eq_some_halt?_iff search]
  simp [halt?_eq_some_iff]

/-- **A method is found on the nearest class that records it**, and on the first one of several that
are as near, in the order in which a search breadth first meets them. Nothing is found exactly if no
class that bases lead to records it. A base that is a text which is never looked into stops the
search instead, unless a class that comes first records the method. -/
theorem searchMethod_nearest (p : Program) (id : ClassId) (name : String) :
    (∃ r, Searches p.basesAt (p.halt? name) [] [id] r ∧ p.searchMethod id name = outcome r) ∧
    ((∀ k d, After (Leads p.basesAt) k id d → ¬p.Unreadable d) →
      (∃ found, p.searchMethod id name = .ok found) ∧
      (p.searchMethod id name = .ok none ↔
        ∀ k d, After (Leads p.basesAt) k id d → ¬p.Records name d) ∧
      ∀ c f, p.searchMethod id name = .ok (some (c, f)) ↔
        ∃ k d, First p.basesAt (p.Records name) id k d ∧
          p.class? d = some c ∧ c.methods.get? name = some f) ∧
    (p.searchMethod id name = .ok none ↔
      ∀ k d, After (Leads p.basesAt) k id d → ¬p.Halts name d) ∧
    (∀ c f, p.searchMethod id name = .ok (some (c, f)) ↔
      ∃ k d, First p.basesAt (p.Halts name) id k d ∧
        p.class? d = some c ∧ c.methods.get? name = some f) ∧
    ∀ fault, p.searchMethod id name = .error fault ↔
      ∃ k d, First p.basesAt (p.Halts name) id k d ∧
        ∃ c, p.class? d = some c ∧ c.methods.get? name = none ∧ baseFault? c = some fault := by
  refine ⟨searches_halt? p id name, fun readable => ?_, searchMethod_eq_none_iff,
    fun c f => searchMethod_eq_some_iff, fun fault => searchMethod_eq_error_iff⟩
  have same (k : Nat) (d : ClassId) (walk : After (Leads p.basesAt) k id d) :
      p.Halts name d ↔ p.Records name d := or_iff_left (readable k d walk)
  refine ⟨?_, ?_, fun c f => ?_⟩
  · cases came : p.searchMethod id name with
    | ok found => exact ⟨found, rfl⟩
    | error fault =>
      obtain ⟨k, d, first, c, hc, -, hf⟩ := searchMethod_eq_error_iff.1 came
      exact absurd ⟨c, fault, hc, hf⟩ (readable k d first.after)
  · rw [searchMethod_eq_none_iff]
    exact forall₃_congr fun k d walk => not_congr (same k d walk)
  · rw [searchMethod_eq_some_iff]
    exact exists₂_congr fun k d => and_congr_left fun _ =>
      ⟨fun first => first.congr same, fun first => first.congr fun j e walk => (same j e walk).symm⟩

end nearest

/-! ## Classes in a circle -/

theorem exprFault?_of_dotted {e : Expr} {dotted : String} (h : e.dotted? = some dotted) :
    exprFault? e = none := by
  refine exprFault?_of_ne_text fun s => ?_
  rintro rfl
  cases h

namespace Kite

/-- The method of some of the classes. -/
def go : Function where
  name := "go"
  isAsync := false
  line := 2
  params := {}
  returns := none
  decorators := []
  body := []

/-- Two ways lead from the first class to the last one, of which the second class on the one and the
last class record the method. The last class leads back to the first one. -/
def app : SourceModule :=
  .ofBody "app" false ⟨["project", "app.py"]⟩
    [.classDef ⟨"A", 1, [.name "B", .name "C"], []⟩, .classDef ⟨"B", 4, [.name "D"], []⟩,
      .classDef ⟨"C", 7, [.name "D"], [.function go]⟩,
      .classDef ⟨"D", 10, [.name "A"], [.function go]⟩]

def program : Program := ({} : Program).store default app

def classId (name : String) : ClassId := ⟨"app", name⟩

/-- The bases of the classes in the program. -/
theorem basesAt_eq :
    program.basesAt (classId "A") = [classId "B", classId "C"] ∧
      program.basesAt (classId "B") = [classId "D"] ∧
      program.basesAt (classId "C") = [classId "D"] ∧
      program.basesAt (classId "D") = [classId "A"] := by
  have found (name : String) : program.resolveExpr? app (.name name) =
      program.resolveIn 8 app (split '.' name) := resolveExpr?_of_dotted program app rfl
  have named : ∀ name ∈ ["A", "B", "C", "D"],
      program.resolveIn 8 app (split '.' name) = some (classId name) := by decide +kernel
  simp only [List.forall_mem_cons] at named
  have listed (name : String) {c : ClassInfo} (hc : program.class? (classId name) = some c)
      (place : c.id.module = "app") :
      program.basesAt (classId name) = c.decl.bases.filterMap (program.resolveExpr? app) := by
    simp only [basesAt, hc, bases, place]
    rfl
  rw [listed "A" rfl rfl, listed "B" rfl rfl, listed "C" rfl rfl, listed "D" rfl rfl]
  simp [found, named]

theorem readable (d : ClassId) : ¬program.Unreadable d := by
  rintro ⟨c, fault, hc, hf⟩
  have dotted : ∀ x ∈ program.classes.toList, ∀ e ∈ x.2.decl.bases, e.dotted?.isSome := by
    decide +kernel
  obtain ⟨e, he, stops⟩ := List.exists_of_findSome?_eq_some hf
  have listed := Entries.get?_eq_some_iff.1 hc
  obtain ⟨name, named⟩ := Option.isSome_iff_exists.1 (dotted _ listed e he)
  rw [exprFault?_of_dotted named] at stops
  cases stops

/-- The method is one step away, and not on the class that stands in front. -/
theorem first : First program.basesAt (program.Records "go") (classId "A") 1 (classId "C") where
  holds := by decide +kernel
  place := by
    refine ⟨[classId "B"], [], ?_, by decide +kernel⟩
    simp [row, rowsUpTo, basesAt_eq, fresh]
    decide
  nearer j hj e walk := by
    obtain rfl : j = 0 := by omega
    rw [← after_zero_iff.1 walk]
    decide +kernel

end Kite

/-- Of the two classes that record the method the nearer one has it. -/
theorem searchMethod_nearest_kite :
    (∀ k d, After (Leads Kite.program.basesAt) k (Kite.classId "A") d →
      ¬Kite.program.Unreadable d) ∧
    First Kite.program.basesAt (Kite.program.Records "go") (Kite.classId "A") 1
      (Kite.classId "C") ∧
    ∃ c, c.id = Kite.classId "C" ∧
      Kite.program.searchMethod (Kite.classId "A") "go" = .ok (some (c, Kite.go)) := by
  have found := (searchMethod_nearest Kite.program (Kite.classId "A") "go").2.1
    fun _ d _ => Kite.readable d
  exact ⟨fun _ d _ => Kite.readable d, Kite.first, _, rfl,
    (found.2.2 _ _).2 ⟨1, _, Kite.first, rfl, rfl⟩⟩

/-! ## A class with a base that is never looked into -/

namespace Marred

/-- The base is a text with the null character. -/
def base : String := "B\x00"

def path : Path := ⟨["project", "app.py"]⟩

def declaration : ClassDef := ⟨"A", 1, [.text base], []⟩

def program : Program :=
  ({} : Program).store default (.ofBody "app" false path [.classDef declaration])

def classId : ClassId := ⟨"app", "A"⟩

def info : ClassInfo := ⟨classId, path, declaration, ∅⟩

theorem indexed : program.Indexed := .file default path _ rfl (.new none)

theorem ofText_base : Expr.ofText base = .error ⟨.nullCharacter, 0⟩ := rfl

theorem quoted?_base : Expr.quoted? base = none := by
  rw [Expr.quoted?, ofText_base]
  rfl

theorem basesAt_eq : program.basesAt classId = [] := by
  have known : program.class? classId = some info := rfl
  simp only [basesAt, known, bases]
  split
  · simp [info, declaration, resolveExpr?_of_unquoted quoted?_base]
  · rfl

theorem baseFault?_info : baseFault? info = some ⟨.nullCharacter, 0⟩ := by
  have fault : exprFault? (.text base) = some ⟨.nullCharacter, 0⟩ := by
    rw [exprFault?_of_unquoted quoted?_base, Expr.textFault?, ofText_base]
    rfl
  simp [baseFault?, info, declaration, fault]

end Marred

/-- The search is stopped by the base of a class, though no class records the method. -/
theorem not_forall_searchMethod_nearest :
    ¬∀ (p : Program) (id : ClassId) (name : String), p.Indexed →
      (p.searchMethod id name = .ok none ↔
        ∀ k d, After (Leads p.basesAt) k id d → ¬p.Records name d) := by
  intro all
  have nothing : Marred.program.searchMethod Marred.classId "go" = .ok none := by
    refine (all _ _ _ Marred.indexed).2 fun k d walk => ?_
    cases walk with
    | here => decide +kernel
    | next first _ =>
      rw [Leads, Marred.basesAt_eq] at first
      cases first
  have halts : Marred.program.Halts "go" Marred.classId :=
    .inr ⟨Marred.info, _, rfl, Marred.baseFault?_info⟩
  exact searchMethod_eq_none_iff.1 nothing 0 _ (.here _) halts

end Program

end ArchModel
