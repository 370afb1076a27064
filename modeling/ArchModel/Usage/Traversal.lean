import ArchModel.Descent
import ArchModel.Usage.CallSite
import ArchModel.Usage.Index

/-!
# Following calls

From the methods of a component calls lead into the methods of other components, and on from there.

* `MethodNode` is a method of a component, which may be declared by a base of its class.
* `UsageMemory` is what a search remembers: the methods that it met, by number, and the fields and
  call sites that it worked out.
* `CallSearch.run` follows calls until no method waits. A method is entered once for each component
  that the search starts from, the component itself is not entered again, and chains of calls have
  a greatest length. It comes to an end because methods come to wait with ever longer chains
  (`CallSearch.step_descends`).
-/

namespace ArchModel

open Source

/-- What usage is looked for in. -/
structure UsageScope where
  program : Program
  /-- The components by their classes. -/
  component? : ClassId → Option Component
  /-- The greatest number of methods in a chain of calls. -/
  maxDepth : Int
  deriving Inhabited

/-- A method of a component. -/
structure MethodNode where
  component : Component
  /-- The class of the component. -/
  id : ClassId
  /-- The class that declares the method. -/
  owner : ClassInfo
  name : String
  function : Function
  deriving Inhabited

namespace MethodNode

/-- What tells methods of components apart. -/
def key (n : MethodNode) : ClassId × String := (n.id, n.name)

/-- The name of a method in chains of calls. -/
def label (n : MethodNode) : String := n.component.name ++ "." ++ n.name

end MethodNode

/-- What is met when calls are followed. -/
inductive CallEvent
  /-- A call by the component that the search starts from. -/
  | own (e : Evidence)
  /-- A call by a component that is reached. -/
  | reach (e : Evidence)
  /-- A call that is not followed because the chain is too long. -/
  | capped (labels : List String)
  deriving DecidableEq, Repr

namespace UsageScope

/-- The method of a component. -/
def node? (s : UsageScope) (id : ClassId) (method : String) : Option MethodNode := do
  let (owner, function) ← s.program.method? id method
  let component ← s.component? id
  return { component, id, owner, name := method, function }

/-- The call sites of a method that lead to components other than its own and than the class that
declares it. -/
def linked (s : UsageScope) (n : MethodNode) (sites : List CallSite) :
    List (CallSite × Component) :=
  sites.filterMap fun site =>
    if site.target = n.id ∨ site.target = n.owner.id then none
    else (s.component? site.target).map fun c => (site, c)

/-- The evidence of a call at the end of a chain of methods. -/
def evidence (chain : List MethodNode) (n : MethodNode) (site : CallSite × Component) :
    Evidence where
  source := n.component.name
  target := site.2.name
  kind := .methodCall
  location :=
    { file := n.owner.path.text, declaration := n.owner.id.qualname, line := site.1.line
      method := some n.name }
  callChain := chain.map (·.label)
  receiver := some site.1.receiver

/-- What a call at the end of a chain of methods is to the component that the search starts from. -/
def callEvent (origin : ClassId) (chain : List MethodNode) (n : MethodNode)
    (site : CallSite × Component) : CallEvent :=
  if n.id = origin then .own (evidence chain n site) else .reach (evidence chain n site)

end UsageScope

/-! ## Memory -/

/-- What a search remembers. -/
structure UsageMemory where
  /-- The methods that were met, each at the place that is its number. -/
  arena : List MethodNode := []
  /-- The numbers of methods by class and name; nothing where there is no such method. -/
  numbers : Entries (ClassId × String) (Option Nat) := ∅
  /-- The fields of classes that were worked out. -/
  fieldsOf : Entries ClassId Fields := ∅
  /-- The call sites of methods that were worked out, by the class that declares the method. -/
  sitesOf : Entries (ClassId × String) (List CallSite) := ∅
  deriving Inhabited

namespace UsageMemory

/-- The fields of a class, worked out unless they are remembered. -/
def fields (m : UsageMemory) (p : Program) (c : ClassInfo) : Fields × UsageMemory :=
  match m.fieldsOf.get? c.id with
  | some fs => (fs, m)
  | none => (p.fields c, { m with fieldsOf := m.fieldsOf.insert c.id (p.fields c) })

/-- The call sites of a method, worked out unless they are remembered. -/
def callSites (m : UsageMemory) (p : Program) (n : MethodNode) : List CallSite × UsageMemory :=
  match m.sitesOf.get? (n.owner.id, n.name) with
  | some sites => (sites, m)
  | none =>
    let (fields, m) := m.fields p n.owner
    let sites := p.callSitesWith fields n.owner n.function
    (sites, { m with sitesOf := m.sitesOf.insert (n.owner.id, n.name) sites })

/-- The number of a method of a component, given to it when it is met first. -/
def number (m : UsageMemory) (s : UsageScope) (id : ClassId) (method : String) :
    Option Nat × UsageMemory :=
  match m.numbers.get? (id, method) with
  | some i => (i, m)
  | none =>
    match s.node? id method with
    | some n =>
      let i := m.arena.length
      (some i, { m with
        arena := m.arena ++ [n], numbers := m.numbers.insert (id, method) (some i) })
    | none => (none, { m with numbers := m.numbers.insert (id, method) none })

/-- The numbers of the methods that call sites at the end of a chain of methods lead into. The
component that the search starts from is not entered, and no method of the chain. -/
def callees (s : UsageScope) (origin : ClassId) (chain : List Nat) :
    List (CallSite × Component) → UsageMemory → List Nat × UsageMemory
  | [], m => ([], m)
  | (site, _) :: sites, m =>
    if site.target = origin then callees s origin chain sites m
    else
      let (i, m) := m.number s site.target site.method
      let (is, m) := callees s origin chain sites m
      ((i.filter fun i => !chain.contains i).toList ++ is, m)

end UsageMemory

/-! ## Searching -/

/-- A search that follows the calls of a component. -/
structure CallSearch where
  memory : UsageMemory := {}
  /-- The numbers of the methods that were entered. -/
  entered : List Nat := []
  /-- What was met, in order. -/
  events : List CallEvent := []
  /-- The numbers of the methods to be entered, the next one first, each with the chain of methods
  that it ends. -/
  waiting : List (Nat × List Nat) := []
  deriving Inhabited

namespace CallSearch

/-- Take the next method that waits, and enter it unless it was entered before. -/
def step (s : UsageScope) (origin : ClassId) (w : CallSearch) : CallSearch :=
  match w.waiting with
  | [] => w
  | (i, chain) :: rest =>
    if i ∈ w.entered then { w with waiting := rest }
    else
      match w.memory.arena[i]? with
      | none => { w with waiting := rest }
      | some n =>
        let nodes := chain.filterMap (w.memory.arena[·]?)
        let (sites, memory) := w.memory.callSites s.program n
        let sites := s.linked n sites
        let (callees, memory) := UsageMemory.callees s origin chain sites memory
        let entered := i :: w.entered
        let events := w.events ++ sites.map (UsageScope.callEvent origin nodes n)
        if chain.length < s.maxDepth then
          { memory, entered, events, waiting := callees.map (fun c => (c, chain ++ [c])) ++ rest }
        else
          { memory, entered, waiting := rest
            events := events ++ callees.map fun _ => .capped (nodes.map (·.label)) }

/-- For each waiting method the number of calls that may still follow its chain. -/
def callsLeft (s : UsageScope) (w : CallSearch) : List Nat :=
  w.waiting.map fun (_, chain) => (s.maxDepth - chain.length).toNat

/-- Whatever a step puts in the place of a waiting method has a longer chain. -/
theorem step_descends (s : UsageScope) (origin : ClassId) (w : CallSearch)
    (h : w.callsLeft s ≠ []) : Descends ((w.step s origin).callsLeft s) (w.callsLeft s) := by
  cases hw : w.waiting with
  | nil => simp [callsLeft, hw] at h
  | cons x rest =>
    obtain ⟨i, chain⟩ := x
    unfold step
    rw [hw]
    simp only [callsLeft, hw, List.map_cons]
    split
    · exact .drop ..
    · split
      · exact .drop ..
      · split
        · next hlt =>
          rw [List.map_append, List.map_map]
          refine .replace _ fun m hm => ?_
          obtain ⟨c, -, rfl⟩ := List.mem_map.1 hm
          simp only [Function.comp_apply, List.length_append, List.length_singleton]
          omega
        · exact .drop ..

/-- Follow the calls until no method waits. -/
def run (s : UsageScope) (origin : ClassId) (w : CallSearch) : CallSearch :=
  runToEnd (step_descends s origin) w

/-- Follow the calls of a method of the component that the search starts from. -/
def start (s : UsageScope) (origin : ClassId) (method : String) (w : CallSearch) : CallSearch :=
  let (i, memory) := w.memory.number s origin method
  match i with
  | some i => run s origin { w with memory, waiting := [(i, [i])] }
  | none => { w with memory }

end CallSearch

end ArchModel
