import ArchModel.Usage.Match
import ArchModel.Proofs.Program.Indexed
import Mathlib.Data.List.Chain
import Mathlib.Data.List.Nodup
import Mathlib.Data.List.Pairwise
import Mathlib.Data.List.Perm.Subperm

/-!
# Methods of components and paths of calls

What the calls between the methods of components are, said of a program and a list of components
alone, without a search.

* `Program.IsNode` holds of the methods of components, `Program.methodNodes` lists them
  (`mem_methodNodes`).
* `Program.CallsAt` holds of a call site that leads to another component, `Program.Calls` of the
  method that it calls.
* `Program.CallPath` is a path of calls away from a component, `Program.Reaches` holds of the
  methods at the ends of such paths.
* `Program.Distinct` holds of components of pairwise distinct classes and names. For those a search
  looks up what the definitions here say (`Lists.mem_sites_iff`, `Lists.node?_iff`).
-/

namespace ArchModel

open Source

namespace Program

variable {p : Program} {cs : List Component}

/-! ## Distinct components -/

/-- Components of pairwise distinct classes and names. -/
structure Distinct (p : Program) (cs : List Component) : Prop where
  classes : (cs.filterMap p.idOf?).Nodup
  names : (Component.names cs).Nodup

namespace Distinct

theorem eq_of_name (h : p.Distinct cs) {c c' : Component} (hc : c ∈ cs) (hc' : c' ∈ cs)
    (hn : c.name = c'.name) : c = c' :=
  List.inj_on_of_nodup_map h.names hc hc' hn

theorem eq_of_id (h : p.Distinct cs) {c c' : Component} (hc : c ∈ cs) (hc' : c' ∈ cs)
    {id : ClassId} (hi : p.idOf? c = some id) (hi' : p.idOf? c' = some id) : c = c' := by
  by_contra hne
  have apart := List.pairwise_filterMap.1 h.classes
  have sym : Std.Symm fun a b : Component =>
      ∀ x, p.idOf? a = some x → ∀ y, p.idOf? b = some y → x ≠ y :=
    ⟨fun _ _ h x hx y hy e => h y hy x hx e.symm⟩
  exact apart.forall hc hc' hne id hi id hi' rfl

theorem perm (h : p.Distinct cs) {cs' : List Component} (hp : cs.Perm cs') : p.Distinct cs' where
  classes := (hp.filterMap _).nodup_iff.1 h.classes
  names := (hp.map _).nodup_iff.1 h.names

theorem nodup_ids (h : p.Distinct cs) :
    ((cs.filterMap fun c => (p.idOf? c).map fun id => (id, c)).map Prod.fst).Nodup := by
  have ids : (cs.filterMap fun c => (p.idOf? c).map fun id => (id, c)).map Prod.fst =
      cs.filterMap p.idOf? := by
    simp [List.map_filterMap, Function.comp_def]
  exact ids ▸ h.classes

/-- Components of distinct classes are listed by their classes as they come. -/
theorem toList_componentsById (h : p.Distinct cs) :
    (p.componentsById cs).toList = cs.filterMap fun c => (p.idOf? c).map fun id => (id, c) :=
  Entries.toList_ofList h.nodup_ids

theorem componentsById_iff (h : p.Distinct cs) {id : ClassId} {c : Component} :
    (p.componentsById cs).get? id = some c ↔ c ∈ cs ∧ p.idOf? c = some id := by
  rw [Entries.get?_eq_some_iff, h.toList_componentsById]
  simp only [List.mem_filterMap, Option.map_eq_some_iff, Prod.mk.injEq]
  exact ⟨fun ⟨_, hc, _, hi, rfl, rfl⟩ => ⟨hc, hi⟩, fun ⟨hc, hi⟩ => ⟨c, hc, id, hi, rfl, rfl⟩⟩

/-- The order of components does not matter to looking them up. -/
theorem componentsById_perm (h : p.Distinct cs) {cs' : List Component} (hp : cs.Perm cs') :
    (p.componentsById cs').get? = (p.componentsById cs).get? := by
  funext id
  apply Option.ext
  intro c
  rw [(h.perm hp).componentsById_iff, h.componentsById_iff, hp.mem_iff]

end Distinct

/-! ## Methods and calls -/

/-- A method that one of some components has, itself or by a base of its class. -/
structure IsNode (p : Program) (cs : List Component) (n : MethodNode) : Prop where
  component_mem : n.component ∈ cs
  id_eq : p.idOf? n.component = some n.id
  method_eq : p.method? n.id n.name = some (n.owner, n.function)

/-- A method that is recorded of the class of its component itself. -/
structure IsOwn (p : Program) (n : MethodNode) : Prop where
  class_eq : p.class? n.id = some n.owner
  recorded : n.owner.methods.get? n.name = some n.function

/-- A call site of a method leads to a component, the class of which is neither that of the method's
component nor the one that declares the method. -/
structure CallsAt (p : Program) (cs : List Component) (n : MethodNode) (site : CallSite)
    (t : Component) : Prop where
  site_mem : site ∈ p.callSites n.owner n.function
  target_mem : t ∈ cs
  target_id : p.idOf? t = some site.target
  ne_id : site.target ≠ n.id
  ne_owner : site.target ≠ n.owner.id

/-- A call site of a method leads into another method. -/
def Calls (p : Program) (cs : List Component) (n n' : MethodNode) : Prop :=
  p.IsNode cs n' ∧ ∃ site, p.CallsAt cs n site n'.component ∧ site.method = n'.name

/-- A path of calls from a method of a component's own class through pairwise distinct methods of
other components. -/
structure CallPath (p : Program) (cs : List Component) (o : Component) (path : List MethodNode) :
    Prop where
  node : ∀ n ∈ path, p.IsNode cs n
  linked : path.IsChain (p.Calls cs)
  distinct : (path.map (·.key)).Nodup
  start : ∃ n ∈ path.head?, n.component = o ∧ p.IsOwn n
  away : ∀ n ∈ path.tail, n.component ≠ o

/-- The methods that calls lead to from the methods of a component's own class, without entering
the component again. -/
inductive Reaches (p : Program) (cs : List Component) (o : Component) : MethodNode → Prop
  | own {n : MethodNode} (node : p.IsNode cs n) (component : n.component = o) (own : p.IsOwn n) :
    Reaches p cs o n
  | call {n n' : MethodNode} (before : Reaches p cs o n) (calls : p.Calls cs n n')
      (away : n'.component ≠ o) : Reaches p cs o n'

theorem Indexed.isOwn_mem_body (hp : p.Indexed) {n : MethodNode} (h : p.IsOwn n) :
    .function n.function ∈ n.owner.decl.body :=
  (mem_of_methodsOf (hp.class_methods h.class_eq ▸ h.recorded)).1

/-- A method that the class of a component records. -/
def ownMethod (o : Component) (id : ClassId) (c : ClassInfo) (method : String × Function) :
    MethodNode where
  component := o
  id
  owner := c
  name := method.1
  function := method.2

theorem isOwn_ownMethod {o : Component} {id : ClassId} {c : ClassInfo}
    (hc : p.class? id = some c) {method : String × Function} (hm : method ∈ c.methods.toList) :
    p.IsOwn (ownMethod o id c method) :=
  ⟨hc, Entries.get?_eq_some_iff.2 hm⟩

theorem IsOwn.isNode {n : MethodNode} (own : p.IsOwn n) (hc : n.component ∈ cs)
    (hi : p.idOf? n.component = some n.id) : p.IsNode cs n :=
  ⟨hc, hi, method?_of_recorded own.class_eq own.recorded⟩

/-- The methods of a component's own class are those that the class records. -/
theorem IsOwn.exists_ownMethod {o : Component} {id : ClassId} (hi : p.idOf? o = some id)
    {n : MethodNode} (hn : p.IsNode cs n) (ho : n.component = o) (own : p.IsOwn n) :
    ∃ c, p.class? id = some c ∧ ∃ method ∈ c.methods.toList, n = ownMethod o id c method := by
  subst ho
  obtain rfl := Option.some.inj (hi.symm.trans hn.id_eq)
  exact ⟨n.owner, own.class_eq, (n.name, n.function), Entries.get?_eq_some_iff.1 own.recorded, rfl⟩

/-- Methods of distinct components are told apart by class and name. -/
theorem IsNode.eq_of_key (h : p.Distinct cs) {n n' : MethodNode} (hn : p.IsNode cs n)
    (hn' : p.IsNode cs n') (hk : n.key = n'.key) : n = n' := by
  obtain ⟨component, id, owner, name, function⟩ := n
  obtain ⟨component', id', owner', name', function'⟩ := n'
  obtain ⟨rfl, rfl⟩ := Prod.mk.inj hk
  obtain rfl := h.eq_of_id hn.component_mem hn'.component_mem hn.id_eq hn'.id_eq
  have same := hn.method_eq.symm.trans hn'.method_eq
  obtain ⟨rfl, rfl⟩ := Prod.mk.inj (Option.some.inj same)
  rfl

/-- Methods of distinct components are of the same component if they are of the same class. -/
theorem IsNode.component_eq_iff (h : p.Distinct cs) {n : MethodNode} (hn : p.IsNode cs n)
    {o : Component} (ho : o ∈ cs) {id : ClassId} (hi : p.idOf? o = some id) :
    n.component = o ↔ n.id = id := by
  constructor
  · rintro rfl
    exact Option.some.inj (hn.id_eq.symm.trans hi)
  · rintro rfl
    exact h.eq_of_id hn.component_mem ho hn.id_eq hi

namespace CallPath

variable {o : Component} {path : List MethodNode} {n n' : MethodNode}

theorem singleton (hn : p.IsNode cs n) (ho : n.component = o) (own : p.IsOwn n) :
    p.CallPath cs o [n] where
  node := by simpa using hn
  linked := .singleton n
  distinct := by simp
  start := ⟨n, rfl, ho, own⟩
  away := by simp

theorem concat (h : p.CallPath cs o (path ++ [n])) (hn : p.Calls cs n n')
    (away : n'.component ≠ o) (fresh : n'.key ∉ (path ++ [n]).map (·.key)) :
    p.CallPath cs o (path ++ [n] ++ [n']) where
  node := by
    intro m hm
    rcases List.mem_append.1 hm with hm | hm
    · exact h.node m hm
    · exact List.mem_singleton.1 hm ▸ hn.1
  linked := List.isChain_append.2 ⟨h.linked, .singleton n', by simpa using hn⟩
  distinct := by
    rw [List.map_append, List.nodup_append]
    refine ⟨h.distinct, by simp, fun k hk k' hk' e => ?_⟩
    obtain rfl : k = n'.key := e.trans (List.mem_singleton.1 hk')
    exact fresh hk
  start := by
    obtain ⟨m, hm, hs⟩ := h.start
    exact ⟨m, by rw [List.head?_append]; simp [Option.mem_def.1 hm], hs⟩
  away := by
    intro m hm
    rw [List.tail_append_of_ne_nil (by simp)] at hm
    rcases List.mem_append.1 hm with hm | hm
    · exact h.away m hm
    · exact List.mem_singleton.1 hm ▸ away

/-- Every method of a path is reached. -/
theorem reaches (h : p.CallPath cs o path) : ∀ n ∈ path, p.Reaches cs o n := by
  obtain ⟨node, linked, -, ⟨n₀, hn₀, hc, own⟩, away⟩ := h
  cases path with
  | nil => cases hn₀
  | cons m rest =>
    obtain rfl := Option.some.inj hn₀
    have head : p.Reaches cs o m := .own (node m (by simp)) hc own
    clear hc own hn₀
    induction rest generalizing m with
    | nil => simpa using head
    | cons n rest ih =>
      have next : p.Reaches cs o n := .call head linked.rel (away n (by simp))
      intro k hk
      rcases List.mem_cons.1 hk with rfl | hk
      · exact head
      · exact ih n (fun k hk => node k (List.mem_cons_of_mem _ hk)) linked.tail
          (fun k hk => away k (List.mem_cons_of_mem _ hk)) next k hk

end CallPath

theorem Reaches.isNode {o : Component} {n : MethodNode} (h : p.Reaches cs o n) : p.IsNode cs n := by
  cases h with
  | own node => exact node
  | call _ calls => exact calls.1

theorem Reaches.idOf? {o : Component} {n : MethodNode} (h : p.Reaches cs o n) :
    ∃ id, p.idOf? o = some id := by
  induction h with
  | own node component _ => exact ⟨_, component ▸ node.id_eq⟩
  | call _ _ _ ih => exact ih

/-! ## All methods -/

/-- The names of the methods of all classes. -/
def methodNames (p : Program) : List String := dedupe (p.classes.values.flatMap (·.methods.keys))

/-- The methods of a component of a class. -/
def nodesOn (p : Program) (c : Component) (id : ClassId) : List MethodNode :=
  p.methodNames.filterMap fun name => (p.method? id name).map fun (owner, function) =>
    { component := c, id, owner, name, function }

/-- The methods of components. -/
def methodNodes (p : Program) (cs : List Component) : List MethodNode :=
  cs.flatMap fun c => (p.idOf? c).toList.flatMap (p.nodesOn c)

theorem mem_methodNames {id : ClassId} {name : String} {c : ClassInfo} {f : Function}
    (h : p.method? id name = some (c, f)) : name ∈ p.methodNames := by
  obtain ⟨id', hc, hf⟩ := method?_recorded h
  have listed : c ∈ p.classes.values :=
    List.mem_map.2 ⟨(id', c), Entries.get?_eq_some_iff.1 hc, rfl⟩
  rw [methodNames, mem_dedupe]
  exact List.mem_flatMap.2 ⟨c, listed, Entries.mem_keys_iff.2 ⟨f, hf⟩⟩

theorem mem_nodesOn {c : Component} {id : ClassId} {n : MethodNode} :
    n ∈ p.nodesOn c id ↔
      n.component = c ∧ n.id = id ∧ p.method? n.id n.name = some (n.owner, n.function) := by
  simp only [nodesOn, List.mem_filterMap, Option.map_eq_some_iff]
  constructor
  · rintro ⟨name, -, ⟨owner, function⟩, hm, rfl⟩
    exact ⟨rfl, rfl, hm⟩
  · rintro ⟨rfl, rfl, hm⟩
    exact ⟨n.name, mem_methodNames hm, (n.owner, n.function), hm, rfl⟩

theorem mem_methodNodes {n : MethodNode} : n ∈ p.methodNodes cs ↔ p.IsNode cs n := by
  simp only [methodNodes, List.mem_flatMap, Option.mem_toList, mem_nodesOn]
  constructor
  · rintro ⟨c, hc, id, hi, rfl, rfl, hm⟩
    exact ⟨hc, hi, hm⟩
  · rintro ⟨hc, hi, hm⟩
    exact ⟨n.component, hc, n.id, hi, rfl, rfl, hm⟩

/-- A path of as many methods as there are passes through each of them. -/
theorem CallPath.key_mem_of_length {o : Component} {path : List MethodNode}
    (h : p.CallPath cs o path) (hl : (p.methodNodes cs).length ≤ path.length) {n : MethodNode}
    (hn : p.IsNode cs n) : n.key ∈ path.map (·.key) := by
  have sub : path.map (·.key) ⊆ (p.methodNodes cs).map (·.key) :=
    List.map_subset _ fun n hn => mem_methodNodes.2 (h.node n hn)
  have perm := (h.distinct.subperm sub).perm_of_length_le (by simpa using hl)
  exact perm.mem_iff.2 (List.mem_map_of_mem (mem_methodNodes.2 hn))

end Program

/-! ## What a search looks up -/

namespace UsageScope

/-- The call sites of a method that lead to components other than its own and than the class that
declares it. -/
def sites (s : UsageScope) (n : MethodNode) : List (CallSite × Component) :=
  s.linked n (s.program.callSites n.owner n.function)

theorem node?_eq_some_iff {s : UsageScope} {id : ClassId} {name : String} {n : MethodNode} :
    s.node? id name = some n ↔ n.key = (id, name) ∧
      s.program.method? n.id n.name = some (n.owner, n.function) ∧
      s.component? n.id = some n.component := by
  simp only [node?, Option.bind_eq_bind, Option.bind_eq_some_iff, Option.pure_def,
    Option.some.injEq]
  constructor
  · rintro ⟨⟨owner, function⟩, hm, c, hc, rfl⟩
    exact ⟨rfl, hm, hc⟩
  · rintro ⟨hk, hm, hc⟩
    obtain ⟨rfl, rfl⟩ := Prod.mk.inj hk
    exact ⟨(n.owner, n.function), hm, n.component, hc, rfl⟩

/-- A scope looks up some distinct components of its program. -/
structure Lists (s : UsageScope) (cs : List Component) : Prop where
  distinct : s.program.Distinct cs
  component?_eq : s.component? = (s.program.componentsById cs).get?

namespace Lists

variable {s : UsageScope} {cs : List Component} (h : s.Lists cs)
include h

theorem component?_iff {id : ClassId} {c : Component} :
    s.component? id = some c ↔ c ∈ cs ∧ s.program.idOf? c = some id := by
  rw [h.component?_eq, h.distinct.componentsById_iff]

theorem mem_sites_iff {n : MethodNode} {x : CallSite × Component} :
    x ∈ s.sites n ↔ s.program.CallsAt cs n x.1 x.2 := by
  simp only [sites, linked, List.mem_filterMap]
  constructor
  · rintro ⟨site, hs, ht⟩
    split at ht
    · cases ht
    · next hne =>
      rw [not_or] at hne
      obtain ⟨c, hc, rfl⟩ := Option.map_eq_some_iff.1 ht
      obtain ⟨hm, hi⟩ := h.component?_iff.1 hc
      exact ⟨hs, hm, hi, hne.1, hne.2⟩
  · rintro ⟨hs, hm, hi, hne, hno⟩
    refine ⟨x.1, hs, ?_⟩
    rw [if_neg (by simp [hne, hno]), h.component?_iff.2 ⟨hm, hi⟩]
    rfl

theorem node?_iff {id : ClassId} {name : String} {n : MethodNode} :
    s.node? id name = some n ↔ s.program.IsNode cs n ∧ n.key = (id, name) := by
  rw [node?_eq_some_iff, h.component?_iff]
  exact ⟨fun ⟨hk, hm, hc, hi⟩ => ⟨⟨hc, hi, hm⟩, hk⟩, fun ⟨⟨hc, hi, hm⟩, hk⟩ => ⟨hk, hm, hc, hi⟩⟩

theorem node?_ownMethod {o : Component} (ho : o ∈ cs) {id : ClassId}
    (hi : s.program.idOf? o = some id) {c : ClassInfo} (hc : s.program.class? id = some c)
    {method : String × Function} (hm : method ∈ c.methods.toList) :
    s.node? id method.1 = some (Program.ownMethod o id c method) :=
  h.node?_iff.2 ⟨(Program.isOwn_ownMethod hc hm).isNode ho hi, rfl⟩

end Lists

end UsageScope

end ArchModel
