import ArchModel.Proofs.Usage.Declared
import ArchModel.Proofs.Usage.Walk

/-!
# What holds along a walk

A walk from a component enters methods at the ends of paths of calls, and whatever a method that it
entered calls is entered too, or cut off by the greatest length of chains.

* `UsageScope.Chain` holds of the chains at the ends of which methods are entered.
* `CallWalk.Inv` is the invariant: of methods that wait, of what was met, and of methods that were
  entered. Every step keeps it (`Inv.step`), so a whole walk does (`Inv.run`).
* After the walks from all methods of a component, the methods that were entered are
  `UsageScope.Closed` (**`UsageScope.exists_closed`**), and every call that was found stands at the
  end of a chain (**`UsageScope.found_reach`**).
-/

namespace ArchModel

open Source

namespace UsageScope

/-- A method is entered at the end of a chain: a path of calls that is not too long, unless it is a
single method. -/
structure Chain (s : UsageScope) (cs : List Component) (o : Component) (n : MethodNode)
    (chain : List MethodNode) : Prop where
  path : s.program.CallPath cs o chain
  last : ∃ above, chain = above ++ [n]
  short : chain.length = 1 ∨ chain.length ≤ s.maxDepth

theorem Chain.isNode {s : UsageScope} {cs : List Component} {o : Component} {n : MethodNode}
    {chain : List MethodNode} (h : s.Chain cs o n chain) : s.program.IsNode cs n := by
  obtain ⟨above, rfl⟩ := h.last
  exact h.path.node n (by simp)

section callees

variable {s : UsageScope} {cs : List Component} (h : s.Lists cs) {o : Component} (ho : o ∈ cs)
  {id : ClassId} (hi : s.program.idOf? o = some id)
include h ho hi

theorem mem_callees_iff_calls {chain : List MethodNode} {n c : MethodNode} :
    c ∈ s.callees id chain n ↔
      s.program.Calls cs n c ∧ c.component ≠ o ∧ c.key ∉ chain.map (·.key) := by
  rw [mem_callees_iff]
  constructor
  · rintro ⟨x, hx, hne, hc, fresh⟩
    obtain ⟨node, key⟩ := h.node?_iff.1 hc
    obtain ⟨hid, hname⟩ := Prod.mk.inj key
    have at_x := h.mem_sites_iff.1 hx
    have same : x.2 = c.component :=
      h.distinct.eq_of_id at_x.target_mem node.component_mem at_x.target_id (hid ▸ node.id_eq)
    refine ⟨⟨node, x.1, same ▸ at_x, hname.symm⟩, ?_, fresh⟩
    rw [ne_eq, node.component_eq_iff h.distinct ho hi, hid]
    exact hne
  · rintro ⟨⟨node, site, at_site, hm⟩, away, fresh⟩
    have hid := Option.some.inj (node.id_eq.symm.trans at_site.target_id)
    refine ⟨(site, c.component), h.mem_sites_iff.2 at_site, ?_, ?_, fresh⟩
    · rw [ne_eq, node.component_eq_iff h.distinct ho hi, hid] at away
      exact away
    · exact h.node?_iff.2 ⟨node, Prod.ext hid hm.symm⟩

theorem Chain.extend {n c : MethodNode} {chain : List MethodNode} (hc : s.Chain cs o n chain)
    (hd : chain.length < s.maxDepth) (hm : c ∈ s.callees id chain n) :
    s.Chain cs o c (chain ++ [c]) := by
  obtain ⟨calls, away, fresh⟩ := (mem_callees_iff_calls h ho hi).1 hm
  obtain ⟨above, rfl⟩ := hc.last
  refine ⟨hc.path.concat calls away fresh, ⟨_, rfl⟩, .inr ?_⟩
  simp only [List.length_append, List.length_singleton] at hd ⊢
  omega

end callees

/-! ## What is met -/

section met

variable {s : UsageScope} {id : ClassId} {chain : List MethodNode} {n : MethodNode}

theorem callEvent_mem_met {x : CallSite × Component} (hx : x ∈ s.sites n) :
    callEvent id chain n x ∈ s.met id chain n :=
  List.mem_append_left _ (List.mem_map_of_mem hx)

theorem reach_mem_met_iff {e : Evidence} :
    .reach e ∈ s.met id chain n ↔ n.id ≠ id ∧ ∃ x ∈ s.sites n, e = evidence chain n x := by
  have cut : CallEvent.reach e ∉ if chain.length < s.maxDepth then [] else
      (s.callees id chain n).map fun _ => .capped (chain.map (·.label)) := by
    split <;> simp
  simp only [met, List.mem_append, cut, or_false, List.mem_map, callEvent]
  by_cases hn : n.id = id
  · simp [hn]
  · simp [hn, eq_comm]

theorem capped_mem_met {c : MethodNode} (hd : ¬chain.length < s.maxDepth)
    (hc : c ∈ s.callees id chain n) :
    .capped (chain.map (·.label)) ∈ s.met id chain n := by
  refine List.mem_append_right _ ?_
  rw [if_neg hd]
  exact List.mem_map.2 ⟨c, hc, rfl⟩

end met

end UsageScope

namespace CallWalk

/-! ## Methods that are known -/

/-- A method was entered or waits. -/
def Knows (w : CallWalk) (k : ClassId × String) : Prop :=
  k ∈ w.entered ∨ ∃ x ∈ w.waiting, x.1.key = k

variable {s : UsageScope} {id : ClassId}

theorem Knows.step {w : CallWalk} (h : w.callsLeft s ≠ []) {k : ClassId × String}
    (hk : w.Knows k) : (w.step s id).Knows k := by
  refine step_induction (P := fun v => v.Knows k) h (fun n chain rest hw hn => ?_)
    (fun n chain rest hw _ => ?_)
  · rcases hk with hk | ⟨x, hx, rfl⟩
    · exact .inl hk
    · rcases List.mem_cons.1 (hw ▸ hx) with rfl | hx
      · exact .inl hn
      · exact .inr ⟨x, hx, rfl⟩
  · rcases hk with hk | ⟨x, hx, rfl⟩
    · exact .inl (List.mem_cons_of_mem _ hk)
    · rcases List.mem_cons.1 (hw ▸ hx) with rfl | hx
      · exact .inl List.mem_cons_self
      · exact .inr ⟨x, List.mem_append_right _ hx, rfl⟩

theorem waiting_of_done {w : CallWalk} (h : w.callsLeft s = []) : w.waiting = [] :=
  List.map_eq_nil_iff.1 h

theorem waiting_run (w : CallWalk) : (w.run s id).waiting = [] :=
  waiting_of_done (runToEnd_induction (step_descends s id) (P := fun _ => True)
    (fun _ _ _ => trivial) trivial).2

/-- Where no method waits those that are known were entered. -/
theorem Knows.entered {w : CallWalk} {k : ClassId × String} (hk : w.Knows k)
    (done : w.waiting = []) : k ∈ w.entered := by
  rcases hk with hk | ⟨x, hx, -⟩
  · exact hk
  · rw [done] at hx
    cases hx

/-- A method that is known is entered in the end. -/
theorem Knows.run {w : CallWalk} {k : ClassId × String} (hk : w.Knows k) :
    k ∈ (w.run s id).entered := by
  have known : (w.run s id).Knows k :=
    (runToEnd_induction (step_descends s id) (fun _ h hk => Knows.step h hk) hk).1
  exact known.entered (waiting_run w)

/-! ## The invariant -/

/-- What holds of a method that was entered at the end of a chain: all its call sites were met, and
the methods that it calls are known unless they were cut off. -/
structure Expanded (s : UsageScope) (cs : List Component) (o : Component) (id : ClassId)
    (met : CallEvent → Prop) (entered known : ClassId × String → Prop) (n : MethodNode)
    (chain : List MethodNode) : Prop where
  followed : s.Chain cs o n chain
  above : ∀ m ∈ chain, entered m.key
  sites : ∀ x ∈ s.sites n, met (UsageScope.callEvent id chain n x)
  callees : ∀ c, s.program.Calls cs n c → c.component ≠ o →
    known c.key ∨ s.maxDepth ≤ chain.length ∧ met (.capped (chain.map (·.label)))

theorem Expanded.mono {cs : List Component} {o : Component} {met met' : CallEvent → Prop}
    {entered entered' known known' : ClassId × String → Prop} {n : MethodNode}
    {chain : List MethodNode} (h : Expanded s cs o id met entered known n chain)
    (hm : ∀ {e}, met e → met' e) (he : ∀ {k}, entered k → entered' k)
    (hk : ∀ {k}, known k → known' k) : Expanded s cs o id met' entered' known' n chain where
  followed := h.followed
  above m hc := he (h.above m hc)
  sites x hx := hm (h.sites x hx)
  callees c hc ho := (h.callees c hc ho).imp hk fun ⟨hd, hcap⟩ => ⟨hd, hm hcap⟩

/-- The invariant of a walk, before which something was met already. -/
structure Inv (s : UsageScope) (cs : List Component) (o : Component) (id : ClassId)
    (past : CallEvent → Prop) (w : CallWalk) : Prop where
  waiting : ∀ x ∈ w.waiting, s.Chain cs o x.1 x.2 ∧ ∀ m ∈ x.2, m = x.1 ∨ m.key ∈ w.entered
  reach : ∀ e, .reach e ∈ w.events → ∃ chain n x, s.Chain cs o n chain ∧ n.component ≠ o ∧
    s.program.CallsAt cs n x.1 x.2 ∧ e = UsageScope.evidence chain n x
  entered : ∀ k ∈ w.entered, ∃ n chain, n.key = k ∧
    Expanded s cs o id (fun e => past e ∨ e ∈ w.events) (· ∈ w.entered) w.Knows n chain

section Inv

variable {cs : List Component} (h : s.Lists cs) {o : Component} (ho : o ∈ cs)
  (hi : s.program.idOf? o = some id)
include h ho hi

/-- What holds of a method when it is entered: each method that it calls is on the chain, comes to
wait or is cut off. -/
theorem Expanded.enter {entered : ClassId × String → Prop} {n : MethodNode}
    {chain : List MethodNode} (hc : s.Chain cs o n chain) (above : ∀ m ∈ chain, entered m.key) :
    Expanded s cs o id (· ∈ s.met id chain n) entered
      (fun k => entered k ∨ ∃ x ∈ s.next id chain n, x.1.key = k) n chain where
  followed := hc
  above := above
  sites _ hx := UsageScope.callEvent_mem_met hx
  callees c calls away := by
    by_cases hm : c.key ∈ chain.map (·.key)
    · obtain ⟨m, hm, key⟩ := List.mem_map.1 hm
      exact .inl (.inl (key ▸ above m hm))
    · have callee := (UsageScope.mem_callees_iff_calls h ho hi).2 ⟨calls, away, hm⟩
      by_cases hd : chain.length < s.maxDepth
      · have comes : (c, chain ++ [c]) ∈ s.next id chain n :=
          UsageScope.mem_next_iff.2 ⟨hd, callee, rfl⟩
        exact .inl (.inr ⟨_, comes, rfl⟩)
      · exact .inr ⟨by omega, UsageScope.capped_mem_met hd callee⟩

theorem Inv.step {past : CallEvent → Prop} {w : CallWalk} (hw : w.callsLeft s ≠ [])
    (inv : Inv s cs o id past w) : Inv s cs o id past (w.step s id) := by
  -- What was known stays known; the case split has to carry this along.
  have knows : ∀ {k}, w.Knows k → (w.step s id).Knows k := Knows.step hw
  revert knows
  refine step_induction (P := fun v => (∀ {k}, w.Knows k → v.Knows k) → Inv s cs o id past v) hw
    (fun n chain rest hw hn knows => ?_) (fun n chain rest hw hn knows => ?_)
  · refine ⟨fun x hx => inv.waiting x (hw ▸ List.mem_cons_of_mem _ hx), inv.reach, ?_⟩
    intro k hk
    obtain ⟨n', chain', key, ex⟩ := inv.entered k hk
    exact ⟨n', chain', key, ex.mono (fun he => he) (fun he => he) knows⟩
  · obtain ⟨hchain, above⟩ := inv.waiting (n, chain) (hw ▸ List.mem_cons_self)
    have above' : ∀ m ∈ chain, m.key ∈ n.key :: w.entered := by
      intro m hm
      rcases above m hm with rfl | hm
      · exact List.mem_cons_self
      · exact List.mem_cons_of_mem _ hm
    refine ⟨?_, ?_, ?_⟩
    · intro x hx
      rcases List.mem_append.1 hx with hx | hx
      · obtain ⟨hd, hc, hx⟩ := UsageScope.mem_next_iff.1 hx
        refine ⟨hx ▸ hchain.extend h ho hi hd hc, fun m hm => ?_⟩
        rw [hx, List.mem_append, List.mem_singleton] at hm
        exact hm.symm.imp_right (above' m)
      · obtain ⟨hx, habove⟩ := inv.waiting x (hw ▸ List.mem_cons_of_mem _ hx)
        exact ⟨hx, fun m hm => (habove m hm).imp_right (List.mem_cons_of_mem _)⟩
    · intro e he
      rcases List.mem_append.1 he with he | he
      · exact inv.reach e he
      · obtain ⟨hne, x, hx, rfl⟩ := UsageScope.reach_mem_met_iff.1 he
        have away : n.component ≠ o :=
          fun e => hne ((hchain.isNode.component_eq_iff h.distinct ho hi).1 e)
        exact ⟨chain, n, x, hchain, away, h.mem_sites_iff.1 hx, rfl⟩
    · -- The method itself is expanded now, those before it are still.
      intro k hk
      rcases List.mem_cons.1 hk with rfl | hk
      · have ex := Expanded.enter h ho hi hchain above'
        exact ⟨n, chain, rfl, ex.mono (fun he => .inr (List.mem_append_right _ he)) (fun he => he)
          fun hk => hk.imp_right fun ⟨x, hx, key⟩ => ⟨x, List.mem_append_left _ hx, key⟩⟩
      · obtain ⟨n', chain', key, ex⟩ := inv.entered k hk
        exact ⟨n', chain', key, ex.mono (fun he => he.imp_right (List.mem_append_left _))
          (List.mem_cons_of_mem _) knows⟩

theorem Inv.run {past : CallEvent → Prop} {w : CallWalk} (inv : Inv s cs o id past w) :
    Inv s cs o id past (w.run s id) :=
  (runToEnd_induction (step_descends s id) (fun _ hw inv => Inv.step h ho hi hw inv) inv).1

end Inv

end CallWalk

/-! ## All methods of a component -/

namespace UsageScope

/-- What holds after walks from some methods of a component. -/
structure Walked (s : UsageScope) (cs : List Component) (o : Component) (id : ClassId)
    (roots : List (String × Function)) (x : List UsageFinding × CallWalk) : Prop where
  done : x.2.waiting = []
  inv : CallWalk.Inv s cs o id (fun e => .call o.name e ∈ x.1) x.2
  met : ∀ e ∈ x.2.events, .call o.name e ∈ x.1
  reach : ∀ e, .call o.name (.reach e) ∈ x.1 → ∃ chain n y, s.Chain cs o n chain ∧
    n.component ≠ o ∧ s.program.CallsAt cs n y.1 y.2 ∧ e = evidence chain n y
  roots : ∀ method ∈ roots, (id, method.1) ∈ x.2.entered

section walked

variable {s : UsageScope} {cs : List Component} (h : s.Lists cs) {o : Component} (ho : o ∈ cs)
  {id : ClassId} (hi : s.program.idOf? o = some id) {c : ClassInfo}
  (hc : s.program.class? id = some c) {m : SourceModule}
include h ho hi hc

omit h in
theorem chain_ownMethod {method : String × Function} (hm : method ∈ c.methods.toList) :
    s.Chain cs o (Program.ownMethod o id c method) [Program.ownMethod o id c method] where
  path := .singleton ((Program.isOwn_ownMethod hc hm).isNode ho hi) rfl
    (Program.isOwn_ownMethod hc hm)
  last := ⟨[], rfl⟩
  short := .inl rfl

omit h in
/-- The walk from the next method begins with the invariant: what was met in the walks before it is
past. -/
theorem Walked.begin {roots : List (String × Function)} {found : List UsageFinding} {w : CallWalk}
    (hx : s.Walked cs o id roots (found, w)) {method : String × Function}
    (hm : method ∈ c.methods.toList) :
    CallWalk.Inv s cs o id (fun e => .call o.name e ∈ found)
      { entered := w.entered
        events := []
        waiting := [(Program.ownMethod o id c method, [Program.ownMethod o id c method])] } where
  waiting y hy := by
    obtain rfl := List.mem_singleton.1 hy
    exact ⟨chain_ownMethod ho hi hc hm, fun m hm => .inl (List.mem_singleton.1 hm)⟩
  reach := by simp
  entered k hk := by
    obtain ⟨n, chain, key, ex⟩ := hx.inv.entered k hk
    exact ⟨n, chain, key, ex.mono (fun he => .inl (he.elim (fun he => he) (hx.met _)))
      (fun hk => hk) (fun hk => .inl (hk.entered hx.done))⟩

theorem Walked.step {roots : List (String × Function)} {x : List UsageFinding × CallWalk}
    (hx : s.Walked cs o id roots x) {method : String × Function}
    (hm : method ∈ c.methods.toList) :
    s.Walked cs o id (roots ++ [method]) (s.walkMethod m c id o x method) := by
  obtain ⟨found, w⟩ := x
  have begins := hx.begin ho hi hc hm
  rw [walkMethod]
  generalize hv : CallWalk.mk w.entered []
    [(Program.ownMethod o id c method, [Program.ownMethod o id c method])] = v at begins
  have runs : CallWalk.start s id method.1 { w with events := [] } = v.run s id := by
    rw [CallWalk.start, h.node?_ownMethod ho hi hc hm, ← hv]
  have ends := begins.run h ho hi
  rw [runs]
  have later : ∀ {f}, f ∈ found → f ∈ found ++ s.signatureEvidence m c o method.1 method.2 ++
      (v.run s id).events.map (.call o.name) :=
    fun hf => List.mem_append_left _ (List.mem_append_left _ hf)
  refine ⟨CallWalk.waiting_run v, ⟨ends.waiting, ends.reach, ?_⟩, ?_, ?_, ?_⟩
  · intro k hk
    obtain ⟨n, chain, key, ex⟩ := ends.entered k hk
    exact ⟨n, chain, key, ex.mono (fun he => he.imp_left later) (fun hk => hk) (fun hk => hk)⟩
  · exact fun e he => List.mem_append_right _ (List.mem_map_of_mem he)
  · intro e he
    rcases List.mem_append.1 he with he | he
    · rcases List.mem_append.1 he with he | he
      · exact hx.reach e he
      · obtain ⟨_, he, -⟩ := declares_of_mem_signatureEvidence he
        cases he
    · obtain ⟨e', he', hee⟩ := List.mem_map.1 he
      obtain ⟨-, rfl⟩ := UsageFinding.call.inj hee
      exact ends.reach e he'
  · intro method' hm'
    rcases List.mem_append.1 hm' with hm' | hm'
    · exact CallWalk.Knows.run (.inl (hv ▸ hx.roots method' hm'))
    · obtain rfl := List.mem_singleton.1 hm'
      exact CallWalk.Knows.run (.inr ⟨_, by rw [← hv]; exact List.mem_singleton_self _, rfl⟩)

variable (m) in
theorem Walked.foldl (methods : List (String × Function)) {roots : List (String × Function)}
    {x : List UsageFinding × CallWalk} (hx : s.Walked cs o id roots x)
    (hm : ∀ method ∈ methods, method ∈ c.methods.toList) :
    s.Walked cs o id (roots ++ methods) (methods.foldl (s.walkMethod m c id o) x) := by
  induction methods generalizing roots x with
  | nil => simpa using hx
  | cons method methods ih =>
    have next := hx.step (m := m) h ho hi hc (hm method List.mem_cons_self)
    have rest := ih next fun method' h' => hm method' (List.mem_cons_of_mem _ h')
    rwa [List.append_assoc] at rest

omit h ho hi hc in
theorem walked_nil : s.Walked cs o id [] ([], {}) where
  done := rfl
  inv := ⟨by simp, by simp, by simp⟩
  met := by simp
  reach := by simp
  roots := by simp

end walked

/-! ## All that is found of a component -/

/-- Methods that were entered in the walks from a component, and with each of them those that it
calls unless its calls were cut off. -/
def Closed (s : UsageScope) (cs : List Component) (o : Component) (id : ClassId)
    (entered : ClassId × String → Prop) : Prop :=
  ∀ k, entered k → ∃ n chain, n.key = k ∧
    CallWalk.Expanded s cs o id (fun e => .call o.name e ∈ s.found id o) entered entered n chain

theorem Closed.expanded {s : UsageScope} {cs : List Component} {o : Component} {id : ClassId}
    {entered : ClassId × String → Prop} (closed : s.Closed cs o id entered) (h : s.Lists cs)
    {n : MethodNode} (node : s.program.IsNode cs n) (hn : entered n.key) :
    ∃ chain, CallWalk.Expanded s cs o id (fun e => .call o.name e ∈ s.found id o) entered entered n
      chain := by
  obtain ⟨n', chain, key, ex⟩ := closed n.key hn
  obtain rfl := ex.followed.isNode.eq_of_key h.distinct node key
  exact ⟨chain, ex⟩

section found

variable {s : UsageScope} (hp : s.program.Indexed) {cs : List Component} (h : s.Lists cs)
  {o : Component} (ho : o ∈ cs) {id : ClassId} (hi : s.program.idOf? o = some id)
include hp h ho hi

/-- All that is found comes from declarations or from walks. -/
theorem exists_walked {c : ClassInfo} (hc : s.program.class? id = some c) :
    ∃ x, s.Walked cs o id c.methods.toList x ∧ (∀ f ∈ x.1, f ∈ s.found id o) ∧
      ∀ f ∈ s.found id o, s.Declares c o f ∨ f ∈ x.1 := by
  obtain ⟨m, hm⟩ := hp.exists_module hc
  have nothing : s.Walked cs o id [] ([], {}) := walked_nil
  have walked := nothing.foldl h ho hi hc m c.methods.toList fun _ hm => hm
  refine ⟨_, walked, ?_, ?_⟩
  · intro f hf
    rw [found_eq hc hm]
    exact List.mem_append_right _ hf
  · intro f hf
    rw [found_eq hc hm] at hf
    rcases List.mem_append.1 hf with hf | hf
    · rcases List.mem_append.1 hf with hf | hf
      · exact .inl (declares_of_mem_constructorEvidence hf)
      · exact .inl (declares_of_mem_fieldEvidence hf)
    · exact .inr hf

/-- A call that is reached stands at the end of a chain. -/
theorem found_reach {e : Evidence} (he : .call o.name (.reach e) ∈ s.found id o) :
    ∃ chain n x, s.Chain cs o n chain ∧ n.component ≠ o ∧ s.program.CallsAt cs n x.1 x.2 ∧
      e = evidence chain n x := by
  cases hc : s.program.class? id with
  | none => simp [found_of_none hc] at he
  | some c =>
    obtain ⟨x, walked, -, found⟩ := exists_walked hp h ho hi hc
    rcases found _ he with ⟨_, he, -⟩ | he
    · cases he
    · exact walked.reach e he

/-- A component's own methods are entered, and with each method that is entered those that it calls
unless its calls are cut off. -/
theorem exists_closed : ∃ entered : ClassId × String → Prop,
    (∀ n, s.program.IsNode cs n → n.component = o → s.program.IsOwn n → entered n.key) ∧
    s.Closed cs o id entered := by
  cases hc : s.program.class? id with
  | none =>
    refine ⟨fun _ => False, fun n hn hno own => ?_, fun _ hk => hk.elim⟩
    obtain ⟨c, hc', -⟩ := own.exists_ownMethod hi hn hno
    rw [hc] at hc'
    cases hc'
  | some c =>
    obtain ⟨⟨found, w⟩, walked, sub, -⟩ := exists_walked hp h ho hi hc
    refine ⟨fun k => k ∈ w.entered, fun n hn hno own => ?_, fun k hk => ?_⟩
    · obtain ⟨c', hc', method, hm, rfl⟩ := own.exists_ownMethod hi hn hno
      obtain rfl := Option.some.inj (hc.symm.trans hc')
      exact walked.roots method hm
    · obtain ⟨n, chain, key, ex⟩ := walked.inv.entered k hk
      exact ⟨n, chain, key, ex.mono (fun he => sub _ (he.elim (fun he => he) (walked.met _)))
        (fun hk => hk) (fun hk => hk.entered walked.done)⟩

end found

end UsageScope

end ArchModel
