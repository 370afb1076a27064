import ArchModel.Proofs.Usage.Path

/-!
# Walks along calls

The search for calls without what it remembers: methods stand for themselves instead of being
numbered, and call sites are worked out wherever they are needed.

* `UsageScope.callees` are the methods that a method leads into at the end of a chain,
  `UsageScope.met` is what is met when it is entered there, `UsageScope.next` what comes to wait.
* `CallWalk.step` enters the next method that waits (`step_known`, `step_enter`), and `CallWalk.run`
  takes all steps.
* `UsageScope.found` is what is found in the class of a component.
-/

namespace ArchModel

open Source

namespace UsageScope

/-- The methods that the calls of a method at the end of a chain lead into. The component that the
walk starts from is not entered, and no method of the chain. -/
def callees (s : UsageScope) (origin : ClassId) (chain : List MethodNode) (n : MethodNode) :
    List MethodNode :=
  (s.sites n).filterMap fun (site, _) =>
    if site.target = origin then none
    else (s.node? site.target site.method).filter fun c => c.key ∉ chain.map (·.key)

/-- The methods that come to wait when a method is entered at the end of a chain. -/
def next (s : UsageScope) (origin : ClassId) (chain : List MethodNode) (n : MethodNode) :
    List (MethodNode × List MethodNode) :=
  if chain.length < s.maxDepth then (s.callees origin chain n).map fun c => (c, chain ++ [c])
  else []

/-- What is met when a method is entered at the end of a chain. -/
def met (s : UsageScope) (origin : ClassId) (chain : List MethodNode) (n : MethodNode) :
    List CallEvent :=
  (s.sites n).map (callEvent origin chain n) ++
    if chain.length < s.maxDepth then []
    else (s.callees origin chain n).map fun _ => .capped (chain.map (·.label))

theorem mem_callees_iff {s : UsageScope} {origin : ClassId} {chain : List MethodNode}
    {n c : MethodNode} :
    c ∈ s.callees origin chain n ↔ ∃ x ∈ s.sites n, x.1.target ≠ origin ∧
      s.node? x.1.target x.1.method = some c ∧ c.key ∉ chain.map (·.key) := by
  simp only [callees, List.mem_filterMap]
  refine exists_congr fun x => and_congr_right fun _ => ?_
  split
  · next h => simp [h]
  · next h => simp [h, Option.filter_eq_some_iff]

theorem mem_next_iff {s : UsageScope} {origin : ClassId} {chain : List MethodNode}
    {n : MethodNode} {x : MethodNode × List MethodNode} :
    x ∈ s.next origin chain n ↔
      chain.length < s.maxDepth ∧ x.1 ∈ s.callees origin chain n ∧ x.2 = chain ++ [x.1] := by
  rw [next]
  split
  · next h =>
    obtain ⟨c, chain'⟩ := x
    simp only [List.mem_map, Prod.mk.injEq, h, true_and]
    exact ⟨fun ⟨_, hc, rfl, hx⟩ => ⟨hc, hx.symm⟩, fun ⟨hc, hx⟩ => ⟨c, hc, rfl, hx.symm⟩⟩
  · next h => simp [h]

end UsageScope

/-- A walk along the calls of a component. -/
structure CallWalk where
  /-- The methods that were entered. -/
  entered : List (ClassId × String) := []
  /-- What was met, in order. -/
  events : List CallEvent := []
  /-- The methods to be entered, the next one first, each with the chain of methods that it
  ends. -/
  waiting : List (MethodNode × List MethodNode) := []

namespace CallWalk

variable (s : UsageScope) (origin : ClassId)

/-- Take the next method that waits, and enter it unless it was entered before. -/
def step (w : CallWalk) : CallWalk :=
  match w.waiting with
  | [] => w
  | (n, chain) :: rest =>
    if n.key ∈ w.entered then { w with waiting := rest }
    else
      { entered := n.key :: w.entered
        events := w.events ++ s.met origin chain n
        waiting := s.next origin chain n ++ rest }

/-- For each waiting method the number of calls that may still follow its chain. -/
def callsLeft (w : CallWalk) : List Nat :=
  w.waiting.map fun (_, chain) => (s.maxDepth - chain.length).toNat

variable {s origin}

theorem step_known {w : CallWalk} {n : MethodNode} {chain : List MethodNode}
    {rest : List (MethodNode × List MethodNode)} (hw : w.waiting = (n, chain) :: rest)
    (hn : n.key ∈ w.entered) : w.step s origin = { w with waiting := rest } := by
  rw [step, hw]
  exact if_pos hn

theorem step_enter {w : CallWalk} {n : MethodNode} {chain : List MethodNode}
    {rest : List (MethodNode × List MethodNode)} (hw : w.waiting = (n, chain) :: rest)
    (hn : n.key ∉ w.entered) :
    w.step s origin =
      { entered := n.key :: w.entered
        events := w.events ++ s.met origin chain n
        waiting := s.next origin chain n ++ rest } := by
  rw [step, hw]
  exact if_neg hn

/-- A step passes a method over that was entered before, or enters it. -/
theorem step_induction {P : CallWalk → Prop} {w : CallWalk} (h : w.callsLeft s ≠ [])
    (known : ∀ n chain rest, w.waiting = (n, chain) :: rest → n.key ∈ w.entered →
      P { w with waiting := rest })
    (enter : ∀ n chain rest, w.waiting = (n, chain) :: rest → n.key ∉ w.entered →
      P { entered := n.key :: w.entered
          events := w.events ++ s.met origin chain n
          waiting := s.next origin chain n ++ rest }) : P (w.step s origin) := by
  cases hw : w.waiting with
  | nil => simp [callsLeft, hw] at h
  | cons x rest =>
    obtain ⟨n, chain⟩ := x
    by_cases hn : n.key ∈ w.entered
    · rw [step_known hw hn]
      exact known n chain rest hw hn
    · rw [step_enter hw hn]
      exact enter n chain rest hw hn

/-- Whatever a step puts in the place of a waiting method has a longer chain. -/
theorem step_descends (s : UsageScope) (origin : ClassId) (w : CallWalk)
    (h : w.callsLeft s ≠ []) : Descends ((w.step s origin).callsLeft s) (w.callsLeft s) := by
  refine step_induction (P := fun v => Descends (v.callsLeft s) (w.callsLeft s)) h
    (fun n chain rest hw _ => ?_) (fun n chain rest hw _ => ?_)
  · simp only [callsLeft, hw, List.map_cons]
    exact .drop ..
  · simp only [callsLeft, hw, List.map_cons, List.map_append]
    refine .replace _ fun m hm => ?_
    obtain ⟨x, hx, rfl⟩ := List.mem_map.1 hm
    obtain ⟨hlt, -, hc⟩ := UsageScope.mem_next_iff.1 hx
    simp only [hc, List.length_append, List.length_singleton]
    omega

variable (s origin)

/-- Follow the calls until no method waits. -/
def run (w : CallWalk) : CallWalk := runToEnd (step_descends s origin) w

/-- Follow the calls of a method of the component that the walk starts from. -/
def start (method : String) (w : CallWalk) : CallWalk :=
  match s.node? origin method with
  | some n => run s origin { w with waiting := [(n, [n])] }
  | none => w

end CallWalk

namespace UsageScope

/-- What is found in a method of a class, its signature and its calls, behind what was found
before. -/
def walkMethod (s : UsageScope) (m : SourceModule) (c : ClassInfo) (id : ClassId)
    (source : Component) (found : List UsageFinding × CallWalk) (method : String × Function) :
    List UsageFinding × CallWalk :=
  let w := CallWalk.start s id method.1 { found.2 with events := [] }
  (found.1 ++ s.signatureEvidence m c source method.1 method.2 ++
    w.events.map (.call source.name), w)

/-- What is found in the class of a component. -/
def found (s : UsageScope) (id : ClassId) (source : Component) : List UsageFinding :=
  match s.program.class? id with
  | none => []
  | some c =>
    match s.program.moduleOf? c with
    | none => []
    | some m =>
      s.constructorEvidence m c source ++ s.fieldEvidence c source (s.program.fields c) ++
        (c.methods.toList.foldl (s.walkMethod m c id source) ([], {})).1

theorem found_eq {s : UsageScope} {id : ClassId} {c : ClassInfo} (hc : s.program.class? id = some c)
    {m : SourceModule} (hm : s.program.moduleOf? c = some m) (source : Component) :
    s.found id source = s.constructorEvidence m c source ++
      s.fieldEvidence c source (s.program.fields c) ++
        (c.methods.toList.foldl (s.walkMethod m c id source) ([], {})).1 := by
  simp only [found, hc, hm]

theorem found_of_none {s : UsageScope} {id : ClassId} (hc : s.program.class? id = none)
    (source : Component) : s.found id source = [] := by
  simp only [found, hc]

end UsageScope

end ArchModel
