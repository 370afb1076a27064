import ArchModel.Proofs.Program.Tables

/-!
# Programs with the same tables

Answers do not depend on the order in which the tables of a program list their entries: programs
with the same entries (`Program.SameTables`) look modules and classes up alike, follow names,
expressions and annotations alike, and find the same methods.
-/

namespace ArchModel

open Source Text

namespace Program

/-- Programs with the same entries in their tables, in whatever order. -/
structure SameTables (p q : Program) : Prop where
  modules : p.modules.toList.Perm q.modules.toList
  files : p.files.toList.Perm q.files.toList
  aliases : ∀ short, p.aliases.get? short = q.aliases.get? short
  classes : p.classes.toList.Perm q.classes.toList

theorem baseCount_eq_length (p : Program) :
    p.baseCount = (p.classes.values.flatMap fun c => c.decl.bases).length := by
  rw [baseCount, List.length_flatMap, List.sum_eq_foldl, List.foldl_map]

namespace SameTables

variable {p q : Program} (h : p.SameTables q)

include h

/-! ## Look-up -/

theorem get?_modules : p.modules.get? = q.modules.get? :=
  funext (Entries.get?_eq_of_perm h.modules)

theorem class?_eq : p.class? = q.class? := funext (Entries.get?_eq_of_perm h.classes)

theorem module?_eq : p.module? = q.module? := by
  funext name
  rw [module?, module?, h.get?_modules, h.aliases]

theorem idAt?_eq (file : Path) (qualname : String) :
    p.idAt? file qualname = q.idAt? file qualname := by
  rw [idAt?, idAt?, moduleAt?, moduleAt?, h.get?_modules, Entries.get?_eq_of_perm h.files]

theorem owner?_eq : p.owner? = q.owner? := by
  have run (names : List String) (count : Nat) :
      p.ownerFrom? names count = q.ownerFrom? names count := by
    induction count with
    | zero => rfl
    | succ count ih => rw [ownerFrom?, ownerFrom?, h.module?_eq, ih]
  exact funext fun names => run names _

/-! ## Names -/

theorem resolveIn_eq (limit : Nat) (m : SourceModule) (names : List String) :
    p.resolveIn limit m names = q.resolveIn limit m names := by
  induction limit generalizing m names with
  | zero => unfold resolveIn; rfl
  | succ limit ih =>
    unfold resolveIn
    rw [h.owner?_eq, h.module?_eq]
    cases names.head?.bind m.imports.get? <;> simp only [ih]

theorem resolve?_eq (dotted : String) : p.resolve? dotted = q.resolve? dotted := by
  unfold resolve?
  simp only [h.owner?_eq, h.resolveIn_eq]

theorem resolveName?_eq : p.resolveName? = q.resolveName? := by
  funext m dotted
  exact h.resolveIn_eq _ _ _

theorem resolveExpr?_eq (m : SourceModule) : p.resolveExpr? m = q.resolveExpr? m := by
  funext e
  fun_induction resolveExpr? p m e with
  | case1 s e quoted ih =>
    rw [resolveExpr?.eq_1 q]
    split
    · next e' found => exact Option.some.inj (quoted.symm.trans found) ▸ ih
    · next found => cases quoted.symm.trans found
  | case2 s unquoted =>
    rw [resolveExpr?.eq_1 q]
    split
    · next e' found => cases unquoted.symm.trans found
    · rfl
  | case3 e other => rw [resolveExpr?.eq_2 q m e other, h.resolveName?_eq]

theorem resolveAnnotation_eq (m : SourceModule) (e : Expr) :
    p.resolveAnnotation m e = q.resolveAnnotation m e := by
  have member : p.resolveMember m = q.resolveMember m := by
    funext part
    unfold resolveMember
    rw [h.resolveExpr?_eq]
  unfold resolveAnnotation
  rw [member]

/-- What keeps an annotation from being followed is the same as well. -/
theorem annotationFault?_eq (m : SourceModule) (e : Expr) :
    p.annotationFault? m e = q.annotationFault? m e := by
  have member : p.memberFault? m = q.memberFault? m := by
    funext part
    unfold memberFault?
    rw [h.resolveExpr?_eq]
  rw [annotationFault?, annotationFault?, member]

/-! ## Methods -/

theorem bases_eq : p.bases = q.bases := by
  funext c
  unfold bases
  rw [h.get?_modules]
  simp only [h.resolveExpr?_eq]

theorem baseCount_eq : p.baseCount = q.baseCount := by
  rw [baseCount_eq_length, baseCount_eq_length]
  exact ((h.classes.map Prod.snd).flatMap_right _).length_eq

theorem method?_eq (id : ClassId) (name : String) : p.method? id name = q.method? id name := by
  have run (fuel : Nat) (seen waiting : List ClassId) :
      p.methodFrom? name fuel seen waiting = q.methodFrom? name fuel seen waiting := by
    induction fuel generalizing seen waiting with
    | zero => rfl
    | succ fuel ih =>
      cases waiting with
      | nil => rfl
      | cons id waiting => simp only [methodFrom?, h.class?_eq, h.bases_eq, ih]
  rw [method?, method?, h.baseCount_eq, run]

end SameTables

end Program

end ArchModel
