import ArchModel.Proofs.Usage.Findings

/-!
# What components use themselves

The evidence of a component is what its class declares and calls. What is met further along its
calls adds none, however the calls run in circles.

* `CallWalk.Aside` holds while the methods that wait belong to other components. It is kept by every
  step (`Aside.step`), and holds once a method of the component was entered (`CallWalk.start_own`).
* **`UsageScope.filterMap_evidence_found`**: the evidence found of a component is
  `UsageScope.direct`, in which no walk occurs.
-/

namespace ArchModel

open Source

namespace UsageScope

variable {s : UsageScope} {id : ClassId} {chain : List MethodNode} {n : MethodNode}

theorem filterMap_own_met :
    (s.met id chain n).filterMap (·.own?) =
      if n.id = id then (s.sites n).map (evidence chain n) else [] := by
  have cut : (if chain.length < s.maxDepth then [] else (s.callees id chain n).map fun _ =>
      CallEvent.capped (chain.map (·.label))).filterMap (·.own?) = [] := by
    split
    · rfl
    · simp [CallEvent.own?]
  rw [met, List.filterMap_append, cut, List.append_nil, List.filterMap_map]
  split
  · next hn => simp [Function.comp_def, callEvent, hn, CallEvent.own?]
  · next hn => simp [Function.comp_def, callEvent, hn, CallEvent.own?]

/-- The component that a walk starts from is not entered again. -/
theorem id_ne_of_mem_next {x : MethodNode × List MethodNode} (hx : x ∈ s.next id chain n) :
    x.1.id ≠ id := by
  obtain ⟨-, hx, -⟩ := mem_next_iff.1 hx
  obtain ⟨y, -, hne, hc, -⟩ := mem_callees_iff.1 hx
  rw [(Prod.mk.inj (node?_eq_some_iff.1 hc).1).1]
  exact hne

end UsageScope

namespace CallWalk

/-! ## Walks among other components -/

/-- The methods that wait belong to other classes than the one that the walk starts from. Of this
one some methods were entered and some evidence was met. -/
structure Aside (id : ClassId) (own : List Evidence) (roots : List (ClassId × String))
    (w : CallWalk) : Prop where
  waiting : ∀ x ∈ w.waiting, x.1.id ≠ id
  own : w.events.filterMap (·.own?) = own
  roots : ∀ k ∈ w.entered, k.1 = id → k ∈ roots

variable {s : UsageScope} {id : ClassId} {own : List Evidence} {roots : List (ClassId × String)}

theorem Aside.step {w : CallWalk} (hw : w.callsLeft s ≠ []) (h : Aside id own roots w) :
    Aside id own roots (w.step s id) := by
  refine step_induction (P := Aside id own roots) hw (fun n chain rest hw hn => ?_)
    (fun n chain rest hw hn => ?_)
  · exact ⟨fun x hx => h.waiting x (hw ▸ List.mem_cons_of_mem _ hx), h.own, h.roots⟩
  · have other : n.id ≠ id := h.waiting (n, chain) (hw ▸ List.mem_cons_self)
    refine ⟨fun x hx => ?_, ?_, fun k hk hid => ?_⟩
    · rcases List.mem_append.1 hx with hx | hx
      · exact UsageScope.id_ne_of_mem_next hx
      · exact h.waiting x (hw ▸ List.mem_cons_of_mem _ hx)
    · rw [List.filterMap_append, UsageScope.filterMap_own_met, if_neg other, List.append_nil, h.own]
    · rcases List.mem_cons.1 hk with rfl | hk
      · exact absurd hid other
      · exact h.roots k hk hid

theorem Aside.run {w : CallWalk} (h : Aside id own roots w) : Aside id own roots (w.run s id) :=
  (runToEnd_induction (step_descends s id) (fun _ hw h => Aside.step hw h) h).1

/-- A walk from a method of a component that was not entered before meets the call sites of this
method and no others of the component. -/
theorem start_own (w : CallWalk) {name : String} {n : MethodNode}
    (hn : s.node? id name = some n) (fresh : n.key ∉ w.entered) :
    Aside id (w.events.filterMap (·.own?) ++ (s.sites n).map (UsageScope.evidence [n] n))
      (n.key :: w.entered) (w.start s id name) := by
  have of_class : n.id = id := (Prod.mk.inj (UsageScope.node?_eq_some_iff.1 hn).1).1
  let v : CallWalk := { w with waiting := [(n, [n])] }
  have go : v.callsLeft s ≠ [] := by simp [callsLeft, v]
  have enter := @step_enter s id v n [n] [] rfl fresh
  rw [start, hn]
  dsimp only
  rw [run, runToEnd_of_left _ go, enter]
  refine Aside.run ⟨fun x hx => ?_, ?_, fun k hk _ => hk⟩
  · rw [List.append_nil] at hx
    exact UsageScope.id_ne_of_mem_next hx
  · rw [List.filterMap_append, UsageScope.filterMap_own_met, if_pos of_class]

end CallWalk

/-! ## Evidence without walks -/

namespace UsageScope

/-- The evidence of calls in a method that the class of a component records. -/
def callEvidence (s : UsageScope) (c : ClassInfo) (id : ClassId) (source : Component)
    (method : String × Function) : List Evidence :=
  let n := Program.ownMethod source id c method
  (s.sites n).map (evidence [n] n)

/-- The evidence in a method of the class of a component, its signature and its calls. -/
def methodEvidence (s : UsageScope) (m : SourceModule) (c : ClassInfo) (id : ClassId)
    (source : Component) (method : String × Function) : List Evidence :=
  (s.signatureEvidence m c source method.1 method.2).filterMap (·.evidence?) ++
    s.callEvidence c id source method

/-- The evidence in the class of a component. -/
def direct (s : UsageScope) (id : ClassId) (source : Component) : List Evidence :=
  match s.program.class? id with
  | none => []
  | some c =>
    match s.program.moduleOf? c with
    | none => []
    | some m =>
      (s.constructorEvidence m c source).filterMap (·.evidence?) ++
        (s.fieldEvidence c source (s.program.fields c)).filterMap (·.evidence?) ++
        c.methods.toList.flatMap (s.methodEvidence m c id source)

theorem direct_eq {s : UsageScope} {id : ClassId} {c : ClassInfo}
    (hc : s.program.class? id = some c) {m : SourceModule} (hm : s.program.moduleOf? c = some m)
    (source : Component) :
    s.direct id source = (s.constructorEvidence m c source).filterMap (·.evidence?) ++
      (s.fieldEvidence c source (s.program.fields c)).filterMap (·.evidence?) ++
        c.methods.toList.flatMap (s.methodEvidence m c id source) := by
  simp only [direct, hc, hm]

theorem direct_of_none {s : UsageScope} {id : ClassId} (hc : s.program.class? id = none)
    (source : Component) : s.direct id source = [] := by
  simp only [direct, hc]

variable {s : UsageScope} {cs : List Component} (h : s.Lists cs) {o : Component} (ho : o ∈ cs)
  {id : ClassId} (hi : s.program.idOf? o = some id)
include h ho hi

theorem filterMap_evidence_foldl {m : SourceModule} {c : ClassInfo}
    (hc : s.program.class? id = some c) {methods : List (String × Function)}
    (hm : ∀ method ∈ methods, method ∈ c.methods.toList)
    (distinct : (methods.map Prod.fst).Nodup) {found : List UsageFinding} {w : CallWalk}
    (fresh : ∀ method ∈ methods, (id, method.1) ∉ w.entered) :
    (methods.foldl (s.walkMethod m c id o) (found, w)).1.filterMap (·.evidence?) =
      found.filterMap (·.evidence?) ++ methods.flatMap (s.methodEvidence m c id o) := by
  induction methods generalizing found w with
  | nil => simp
  | cons method methods ih =>
    rw [List.map_cons, List.nodup_cons] at distinct
    have node := h.node?_ownMethod ho hi hc (hm method List.mem_cons_self)
    have aside := CallWalk.start_own { w with events := [] } node
      (fresh method List.mem_cons_self)
    -- The names are distinct, so the walk has not entered a method that is still to come.
    have rest : ∀ method' ∈ methods, (id, method'.1) ∉
        (CallWalk.start s id method.1 { w with events := [] }).entered := by
      intro method' hm' entered
      rcases List.mem_cons.1 (aside.roots _ entered rfl) with e | old
      · have same : method'.1 = method.1 := (Prod.mk.inj e).2
        exact distinct.1 (same ▸ List.mem_map_of_mem hm')
      · exact fresh method' (List.mem_cons_of_mem _ hm') old
    have walk : ((CallWalk.start s id method.1 { w with events := [] }).events.map
        (UsageFinding.call o.name)).filterMap (·.evidence?) = s.callEvidence c id o method := by
      rw [List.filterMap_map]
      exact aside.own
    rw [List.foldl_cons, walkMethod, ih (fun m hm' => hm m (List.mem_cons_of_mem _ hm')) distinct.2
      rest, List.filterMap_append, List.filterMap_append, walk, List.flatMap_cons, methodEvidence]
    simp only [List.append_assoc]

/-- **Evidence without walks.** The evidence found of a component is that in its class. -/
theorem filterMap_evidence_found (hp : s.program.Indexed) :
    (s.found id o).filterMap (·.evidence?) = s.direct id o := by
  cases hc : s.program.class? id with
  | none => rw [found_of_none hc, direct_of_none hc, List.filterMap_nil]
  | some c =>
    obtain ⟨m, hm⟩ := hp.exists_module hc
    rw [found_eq hc hm, direct_eq hc hm, List.filterMap_append, List.filterMap_append,
      filterMap_evidence_foldl h ho hi hc (fun _ hm => hm) c.methods.nodup_keys (by simp),
      List.filterMap_nil, List.nil_append]

omit h ho hi

/-! ## What the evidence says -/

/-- A piece of evidence leads from a component to one of another class. -/
def Joins (s : UsageScope) (id : ClassId) (source : Component) (e : Evidence) : Prop :=
  e.source = source.name ∧ ∃ id' t, id' ≠ id ∧ s.component? id' = some t ∧ e.target = t.name

theorem joins_of_mem_declared {c : ClassInfo} {source : Component} {l : List UsageFinding}
    (hl : ∀ f ∈ l, s.Declares c source f) {e : Evidence} (he : e ∈ l.filterMap (·.evidence?)) :
    s.Joins c.id source e ∧ e.kind ≠ .methodCall := by
  obtain ⟨f, hf, he⟩ := List.mem_filterMap.1 he
  obtain ⟨e', rfl, hs, hk, target⟩ := hl f hf
  obtain rfl := Option.some.inj he
  exact ⟨⟨hs, target⟩, hk⟩

theorem joins_of_mem_callEvidence {c : ClassInfo} {source : Component}
    {method : String × Function} {e : Evidence} (he : e ∈ s.callEvidence c id source method) :
    s.Joins id source e ∧ e.kind = .methodCall := by
  obtain ⟨x, hx, rfl⟩ := List.mem_map.1 he
  obtain ⟨site, -, hx⟩ := List.mem_filterMap.1 hx
  split at hx
  · cases hx
  · next away =>
    obtain ⟨t, ht, rfl⟩ := Option.map_eq_some_iff.1 hx
    exact ⟨⟨rfl, site.target, t, fun e => away (.inl e), ht, rfl⟩, rfl⟩

theorem joins_of_mem_direct (hp : s.program.Indexed) {source : Component} {e : Evidence}
    (he : e ∈ s.direct id source) : s.Joins id source e := by
  cases hc : s.program.class? id with
  | none => simp [direct_of_none hc] at he
  | some c =>
    obtain ⟨m, hm⟩ := hp.exists_module hc
    obtain rfl := hp.class_id hc
    rw [direct_eq hc hm] at he
    rcases List.mem_append.1 he with he | he
    · rcases List.mem_append.1 he with he | he
      · exact (joins_of_mem_declared (fun _ => declares_of_mem_constructorEvidence) he).1
      · exact (joins_of_mem_declared (fun _ => declares_of_mem_fieldEvidence) he).1
    · obtain ⟨method, -, he⟩ := List.mem_flatMap.1 he
      rcases List.mem_append.1 he with he | he
      · exact (joins_of_mem_declared (fun _ => declares_of_mem_signatureEvidence) he).1
      · exact (joins_of_mem_callEvidence he).1

theorem filter_methodCall_declared {c : ClassInfo} {source : Component} {l : List UsageFinding}
    (hl : ∀ f ∈ l, s.Declares c source f) :
    (l.filterMap (·.evidence?)).filter (·.kind = .methodCall) = [] :=
  List.filter_eq_nil_iff.2 fun _ he => by simpa using (joins_of_mem_declared hl he).2

/-- The calls among the evidence of a component are those of its methods. -/
theorem filter_methodCall_direct (hp : s.program.Indexed) {c : ClassInfo}
    (hc : s.program.class? id = some c) (source : Component) :
    (s.direct id source).filter (·.kind = .methodCall) =
      c.methods.toList.flatMap (s.callEvidence c id source) := by
  obtain ⟨m, hm⟩ := hp.exists_module hc
  rw [direct_eq hc hm, List.filter_append, List.filter_append, List.filter_flatMap,
    filter_methodCall_declared fun _ => declares_of_mem_constructorEvidence,
    filter_methodCall_declared fun _ => declares_of_mem_fieldEvidence]
  refine List.flatMap_congr fun method _ => ?_
  have calls : (s.callEvidence c id source method).filter (·.kind = .methodCall) =
      s.callEvidence c id source method :=
    List.filter_eq_self.2 fun _ he => by simpa using (joins_of_mem_callEvidence he).2
  rw [methodEvidence, List.filter_append, calls,
    filter_methodCall_declared fun _ => declares_of_mem_signatureEvidence, List.nil_append]

/-! ## Evidence of one target -/

theorem filter_filterMap_evidence (l : List UsageFinding) (name : String) :
    (l.filterMap (·.evidence?)).filter (·.target = name) =
      (l.filter (leadsTo name)).filterMap (·.evidence?) := by
  rw [List.filter_filterMap, List.filterMap_filter]
  refine List.filterMap_congr fun f _ => ?_
  cases hf : f.evidence? with
  | none => simp [leadsTo, hf]
  | some e => simp [leadsTo, hf, Option.filter_some]

theorem filter_linked (n : MethodNode) (sites : List CallSite) (name : String) :
    (s.linked n sites).filter (·.2.name = name) = (s.only name).linked n sites := by
  rw [linked, linked, List.filter_filterMap]
  refine List.filterMap_congr fun site _ => ?_
  split
  · rfl
  · exact filter_map_component? (fun _ => rfl) site.target

theorem filter_callEvidence (c : ClassInfo) (source : Component) (method : String × Function)
    (name : String) :
    (s.callEvidence c id source method).filter (·.target = name) =
      (s.only name).callEvidence c id source method := by
  rw [callEvidence, callEvidence, List.filter_map, sites, sites, ← filter_linked]
  rfl

/-- The evidence of one target is all the evidence there is if nothing else is looked for. -/
theorem filter_direct (source : Component) (name : String) :
    (s.direct id source).filter (·.target = name) = (s.only name).direct id source := by
  unfold direct
  rw [show (s.only name).program = s.program from rfl]
  split
  · rfl
  · split
    · rfl
    · rw [List.filter_append, List.filter_append, List.filter_flatMap, filter_filterMap_evidence,
        filter_filterMap_evidence, filter_constructorEvidence, filter_fieldEvidence]
      congr 1
      refine List.flatMap_congr fun method _ => ?_
      rw [methodEvidence, List.filter_append, filter_filterMap_evidence, filter_signatureEvidence,
        filter_callEvidence]
      rfl

end UsageScope

end ArchModel
