import ArchModel.Proofs.Usage.CallPlaces
import ArchModel.Proofs.Usage.Reach

/-!
# What components reach through objects that they make

Making an object is a call of the constructor of its class, unless a method of the new object is
called at once: then that method alone is called.

* `Program.mem_callSites_of_construction` and `mem_callSites_of_receiver`: the call sites that a
  construction is.
* `Program.SitesReached` says that a component reaches what a method of another one calls.
* **`UsageFinder.constructions_reached`**: from wherever a component reaches a construction, it
  reaches what the constructor calls, or what the method calls for which the object is made. `Desk`
  is a program where a constructor is passed over
  (**`UsageFinder.not_forall_construction_reached`**).
-/

namespace ArchModel

open Source

namespace Program

variable {p : Program} {m : SourceModule} {owner : ClassInfo} {f : Function} {func : Expr}
  {args : List Expr} {place : Position} {role : CallRole} {id : ClassId}

/-! ## Call sites of constructions -/

/-- The classes of an object whose member is used in a method, as far as they are known. -/
def objectClasses (p : Program) (m : SourceModule) (owner : ClassInfo) (f : Function)
    (object : Expr) : List ClassId :=
  (p.receiverTypes m (p.fields owner) (p.localTypes m (p.fields owner) f) object).1

/-- The call sites of a part of a method that is a call. -/
theorem mem_callSites_of_hasPart (hm : p.moduleOf? owner = some m)
    (h : f.HasPart role (.call func args place)) {site : CallSite}
    (hs : site ∈ p.sitesOf m (p.fields owner) (p.localTypes m (p.fields owner) f)
      ⟨func, place, role = .receiver⟩) :
    site ∈ p.callSites owner f := by
  rw [callSites, callSitesWith, hm]
  refine List.mem_flatMap.2 ⟨⟨func, place, role = .receiver⟩, ?_, hs⟩
  exact FunctionOf.mem_sortedCalls_iff.2 ⟨role, args, h, decide_eq_true_iff⟩

/-- A construction on its own is a call of the constructor, unless the name of the class reads as
that of a method of a known object. -/
theorem mem_callSites_of_construction (hm : p.moduleOf? owner = some m)
    (h : f.HasPart role (.call func args place)) (alone : role ≠ .receiver)
    (made : p.resolveExpr? m func = some id)
    (plain : ∀ object attr, func = .member object attr → p.objectClasses m owner f object = []) :
    ⟨id, "__init__", .newObject, place.line⟩ ∈ p.callSites owner f := by
  refine mem_callSites_of_hasPart hm h ?_
  cases func with
  | member object attr =>
    have unknown := plain object attr rfl
    rw [objectClasses] at unknown
    simp [sitesOf, unknown, alone, made, constructorName]
  | _ => simp [sitesOf, alone, made, constructorName]

/-- A construction whose result has a method called is a call of this method. -/
theorem mem_callSites_of_receiver (hm : p.moduleOf? owner = some m) {method : String}
    {args' : List Expr} {place' : Position}
    (h : f.HasPart role (.call (.member (.call func args place) method) args' place'))
    (made : p.resolveExpr? m func = some id) :
    ⟨id, method, .newObject, place'.line⟩ ∈ p.callSites owner f := by
  refine mem_callSites_of_hasPart hm h ?_
  have object : p.receiverTypes m (p.fields owner) (p.localTypes m (p.fields owner) f)
      (.call func args place) = ([id], .newObject) := by
    simp [receiverTypes, Expr.selfAttribute?, made]
  simp [sitesOf, object]

/-! ## What a method of another component calls -/

/-- All that a method of a component calls of others is among what `o` reaches, each call site at
the end of a path of calls. -/
def SitesReached (p : Program) (cs : List Component) (index : UsageIndex) (o t : Component)
    (method : String) : Prop :=
  ∀ n, p.IsNode cs n → n.component = t → n.name = method →
    ∀ site u, p.CallsAt cs n site u → u ≠ o →
      ∃ path, p.CallPath cs o (path ++ [n]) ∧
        UsageScope.evidence (path ++ [n]) n (site, u) ∈ index.reached o.name u.name

end Program

/-! ## A program with a constructor that is passed over -/

namespace Desk

open Detour

/-- A call without arguments. -/
def invoke (func : Expr) (line : Nat) : Expr := .call func [] ⟨line, 8⟩

/-- A method that makes some calls. -/
def method (name : String) (line : Nat) (calls : List Expr) : Function where
  name
  isAsync := false
  line
  params := { positional := [⟨"self", none, line⟩] }
  returns := none
  decorators := []
  body := calls.map fun e => .expr e line

/-- An object is made to call a method of it. -/
def opened : Expr := invoke (.member (invoke (.name "Till") 7) "open") 7

/-- The clerk opens a till. -/
def serve : Function := method "serve" 6 [opened]

/-- A till that is made writes to the ledger, and one that is opened to the journal. -/
def start : Function := method "__init__" 15 [invoke (.member (.name "Ledger") "note") 16]

def openTill : Function := method "open" 18 [invoke (.member (.name "Journal") "write") 19]

/-- The owner makes a till and opens another one. -/
def inspect : Function := method "inspect" 47 [invoke (.name "Till") 48, opened]

def clerk : ClassDef := declaration "Clerk" 1 [serve]

def till : ClassDef := declaration "Till" 10 [start, openTill]

def owner : ClassDef := declaration "Owner" 42 [inspect]

def body : List Stmt :=
  [clerk, till, declaration "Ledger" 22 [method "note" 27 []],
    declaration "Journal" 32 [method "write" 37 []], owner].map .classDef

def source : SourceModule := .ofBody "app" false path body

def program : Program := ({} : Program).store default source

/-- The program with its tables written out. -/
theorem program_eq : program =
    { modules := Entries.insert ∅ "app" source
      files := Entries.insert ∅ path.text "app"
      classes := source.classes.values.foldl (fun classes c => classes.insert c.id c) ∅ } := rfl

def components : List Component := ["Clerk", "Till", "Ledger", "Journal", "Owner"].map component

/-- What the components reach. -/
def index : UsageIndex := ((UsageFinder.used program 6 []).find components).1.index

theorem indexed : program.Indexed := .file default path _ rfl (.new none)

/-- All that is worked out of the program. -/
theorem facts :
    components.filterMap program.idOf? =
      ["Clerk", "Till", "Ledger", "Journal", "Owner"].map (⟨"app", ·⟩) ∧
    program.idOf? (component "Clerk") = some ⟨"app", "Clerk"⟩ ∧
    program.idOf? (component "Till") = some ⟨"app", "Till"⟩ ∧
    program.idOf? (component "Ledger") = some ⟨"app", "Ledger"⟩ ∧
    program.idOf? (component "Journal") = some ⟨"app", "Journal"⟩ ∧
    program.idOf? (component "Owner") = some ⟨"app", "Owner"⟩ ∧
    program.resolveExpr? source (.name "Till") = some ⟨"app", "Till"⟩ ∧
    (program.methodNodes components).length = 6 ∧
    program.callSites (node till start).owner start =
      [⟨⟨"app", "Ledger"⟩, "note", .classItself, 16⟩] ∧
    program.callSites (node till openTill).owner openTill =
      [⟨⟨"app", "Journal"⟩, "write", .classItself, 19⟩] ∧
    index.reached "Clerk" "Ledger" = [] := by
  have none : index.reached "Clerk" "Ledger" = [] := by
    rw [index, UsageMatch.reached_index, UsageFinder.findings_find_used indexed, program_eq]
    cbv
  refine ⟨?_, ?_, ?_, ?_, ?_, ?_, ?_, ?_, ?_, ?_, none⟩ <;> decide +kernel

theorem distinct : program.Distinct components where
  classes := by
    rw [facts.1]
    decide
  names := by decide

theorem inspect_isNode : program.IsNode components (node owner inspect) :=
  (⟨rfl, rfl⟩ : program.IsOwn (node owner inspect)).isNode (by decide) facts.2.2.2.2.2.1

theorem serve_isNode : program.IsNode components (node clerk serve) :=
  (⟨rfl, rfl⟩ : program.IsOwn (node clerk serve)).isNode (by decide) facts.2.1

theorem start_isNode : program.IsNode components (node till start) :=
  (⟨rfl, rfl⟩ : program.IsOwn (node till start)).isNode (by decide) facts.2.2.1

theorem open_isNode : program.IsNode components (node till openTill) :=
  (⟨rfl, rfl⟩ : program.IsOwn (node till openTill)).isNode (by decide) facts.2.2.1

end Desk

namespace UsageFinder

section constructions

variable {p : Program} (hp : p.Indexed) {cs : List Component} (h : p.Distinct cs) {d : Int}
  (history : List (List Component)) {o : Component} (ho : o ∈ cs)
  (hd : ((p.methodNodes cs).length : Int) ≤ d)
include hp h ho hd

/-- What a method calls is reached from wherever it is called. -/
theorem sitesReached_of_site {n : MethodNode} (hr : p.Reaches cs o n) {t : Component}
    (away : t ≠ o) {site : CallSite} (ht : p.CallsAt cs n site t) :
    p.SitesReached cs ((used p d history).find cs).1.index o t site.method := by
  rintro c node rfl named site' u hu other
  have calls : p.Calls cs n c := ⟨node, site, ht, named.symm⟩
  exact mem_reached_of_reaches hp h history ho hd (.call hr calls away) away hu other

/-- **What is reached through objects that are made.** From a method that is the component's own or
that it reaches, let an object of another component be made, anywhere in the function outside of
nested classes. If the object stands for itself and the name of its class does not read as a member
of an object of a known class, then the component reaches whatever the constructor calls. If a
method of the object is called at once, it reaches whatever this method calls. -/
theorem constructions_reached {n : MethodNode} (hr : p.Reaches cs o n) {m : SourceModule}
    (hm : p.moduleOf? n.owner = some m) {t : Component} (ht : t ∈ cs) {id : ClassId}
    (hi : p.idOf? t = some id) (away : t ≠ o) (other : id ≠ n.id) (foreign : id ≠ n.owner.id)
    {func : Expr} (made : p.resolveExpr? m func = some id) :
    let index := ((used p d history).find cs).1.index
    (∀ role args place, n.function.HasPart role (.call func args place) → role ≠ .receiver →
      (∀ object attr, func = .member object attr →
        p.objectClasses m n.owner n.function object = []) →
      p.SitesReached cs index o t "__init__") ∧
    (∀ role args place method args' place',
      n.function.HasPart role (.call (.member (.call func args place) method) args' place') →
      p.SitesReached cs index o t method) := by
  constructor
  · intro role args place has alone plain
    have site := Program.mem_callSites_of_construction hm has alone made plain
    exact sitesReached_of_site hp h history ho hd hr away ⟨site, ht, hi, other, foreign⟩
  · intro role args place method args' place' has
    have site := Program.mem_callSites_of_receiver hm has made
    exact sitesReached_of_site hp h history ho hd hr away ⟨site, ht, hi, other, foreign⟩

end constructions

open Desk in
/-- The owner reaches the ledger through the till that it makes, and the journal through the till
that it opens. -/
theorem constructions_reached_desk :
    (∃ path, Desk.program.CallPath components (Detour.component "Owner")
        (path ++ [Detour.node till start]) ∧
      UsageScope.evidence (path ++ [Detour.node till start]) (Detour.node till start)
          (⟨⟨"app", "Ledger"⟩, "note", .classItself, 16⟩, Detour.component "Ledger") ∈
        index.reached "Owner" "Ledger") ∧
    ∃ path, Desk.program.CallPath components (Detour.component "Owner")
        (path ++ [Detour.node till openTill]) ∧
      UsageScope.evidence (path ++ [Detour.node till openTill]) (Detour.node till openTill)
          (⟨⟨"app", "Journal"⟩, "write", .classItself, 19⟩, Detour.component "Journal") ∈
        index.reached "Owner" "Journal" := by
  obtain ⟨-, -, tillId, ledgerId, journalId, -, made, count, startSites, openSites, -⟩ := facts
  have reaches : Desk.program.Reaches components (Detour.component "Owner")
      (Detour.node owner inspect) := .own inspect_isNode rfl ⟨rfl, rfl⟩
  have stored : Desk.program.moduleOf? (Detour.node owner inspect).owner = some source := rfl
  obtain ⟨alone, receiver⟩ := constructions_reached indexed distinct [] (by decide)
    (show ((Desk.program.methodNodes components).length : Int) ≤ 6 by rw [count]; decide)
    reaches stored (by decide) tillId (by decide) (by decide) (by decide) made
  have first : inspect.HasPart .plain (invoke (.name "Till") 48) :=
    .statement (.direct List.mem_cons_self) List.mem_cons_self
  have second : inspect.HasPart .plain opened :=
    .statement (.direct (List.mem_cons_of_mem _ List.mem_cons_self)) List.mem_cons_self
  constructor
  · refine alone _ _ _ first (by decide) (by simp) _ start_isNode rfl rfl _ _ ⟨?_, by decide,
      ledgerId, by decide, by decide⟩ (by decide)
    exact startSites ▸ List.mem_singleton_self _
  · refine receiver _ _ _ _ _ _ second _ open_isNode rfl rfl _ _ ⟨?_, by decide, journalId,
      by decide, by decide⟩ (by decide)
    exact openSites ▸ List.mem_singleton_self _

open Desk in
/-- What the constructor calls need not be reached where an object is made to call a method. -/
theorem not_forall_construction_reached :
    ¬ ∀ (p : Program) (cs : List Component) (d : Int) (o : Component) (n : MethodNode)
      (m : SourceModule) (t : Component) (id : ClassId) (role : CallRole) (func : Expr)
      (args : List Expr) (place : Position), p.Indexed → p.Distinct cs → o ∈ cs →
      ((p.methodNodes cs).length : Int) ≤ d → p.Reaches cs o n → p.moduleOf? n.owner = some m →
      t ∈ cs → p.idOf? t = some id → t ≠ o → id ≠ n.id → id ≠ n.owner.id →
      n.function.HasPart role (.call func args place) → p.resolveExpr? m func = some id →
      p.SitesReached cs ((used p d []).find cs).1.index o t "__init__" := by
  intro all
  obtain ⟨-, -, tillId, ledgerId, -, -, made, count, startSites, -, none⟩ := facts
  have reaches : Desk.program.Reaches components (Detour.component "Clerk")
      (Detour.node clerk serve) := .own serve_isNode rfl ⟨rfl, rfl⟩
  have statement : serve.HasPart .plain opened :=
    .statement (.direct List.mem_cons_self) List.mem_cons_self
  have sites := all Desk.program components 6 (Detour.component "Clerk") (Detour.node clerk serve)
    source (Detour.component "Till") ⟨"app", "Till"⟩ .receiver (.name "Till") [] ⟨7, 8⟩ indexed
    distinct (by decide) (by rw [count]; decide) reaches rfl (by decide) tillId (by decide)
    (by decide) (by decide) statement.called.receiver made
  obtain ⟨path, -, reached⟩ := sites (Detour.node till start) start_isNode rfl rfl
    ⟨⟨"app", "Ledger"⟩, "note", .classItself, 16⟩ (Detour.component "Ledger")
    ⟨startSites ▸ List.mem_singleton_self _, by decide, ledgerId, by decide, by decide⟩ (by decide)
  exact List.not_mem_nil (none ▸ reached)

end UsageFinder

end ArchModel
