import ArchModel.Proofs.Usage.Findings
import ArchModel.Proofs.Usage.WalkInvariant
import Mathlib.Tactic

/-!
# What components reach

What a component reaches of another one are the call sites at the ends of paths of calls, as far as
the greatest length of chains lets them be found.

* `UsageFinder.mem_reached_iff` says which findings are reached.
* **`UsageFinder.reached_paths`**: everything reached stands at the end of a path that is not too
  long, and if chains may be as long as there are methods then every call site of every method that
  paths lead to is reached.
* **`UsageFinder.reached_or_cutOff`**: a call site at the end of a path that is not too long is
  reached, unless a method on the way was entered at the end of another chain of the greatest length
  and its calls were cut off. `Detour` is a program where this happens
  (**`UsageFinder.not_forall_path_reached`**).
-/

namespace ArchModel

open Source

namespace UsageScope

variable {s : UsageScope} {cs : List Component} {o : Component} {n : MethodNode}
  {chain : List MethodNode}

/-- The component that a walk starts from is not entered again. -/
theorem Chain.component_eq_iff (h : s.Chain cs o n chain) :
    n.component = o ↔ chain.length = 1 := by
  obtain ⟨above, rfl⟩ := h.last
  cases above with
  | nil =>
    obtain ⟨m, hm, hc, -⟩ := h.path.start
    obtain rfl := Option.some.inj hm
    simp [hc]
  | cons m above => simpa using h.path.away n (by simp)

theorem Chain.length_le (h : s.Chain cs o n chain) (hn : n.component ≠ o) :
    (chain.length : Int) ≤ s.maxDepth :=
  h.short.resolve_left fun h' => hn (h.component_eq_iff.2 h')

end UsageScope

namespace CallWalk.Expanded

variable {s : UsageScope} {cs : List Component} {o : Component} {id : ClassId}
  {met : CallEvent → Prop} {entered : ClassId × String → Prop} {n c : MethodNode}
  {chain : List MethodNode}

/-- If chains may be as long as there are methods, the methods that are called are entered. -/
theorem entered_of_calls (ex : Expanded s cs o id met entered entered n chain)
    (hd : ((s.program.methodNodes cs).length : Int) ≤ s.maxDepth) (hc : s.program.Calls cs n c)
    (away : c.component ≠ o) : entered c.key := by
  rcases ex.callees c hc away with hk | ⟨full, -⟩
  · exact hk
  · -- A chain that is cut off has every method in it already.
    have on_chain := ex.followed.path.key_mem_of_length (by omega) hc.1
    obtain ⟨m, hm, key⟩ := List.mem_map.1 on_chain
    exact key ▸ ex.above m hm

end CallWalk.Expanded

/-! ## A program with a detour -/

namespace Detour

/-- A method that makes an object of a class and calls a method of it, if it calls one. -/
def method (name : String) (line : Nat) (call : Option (String × String)) : Function where
  name
  isAsync := false
  line
  params := { positional := [⟨"self", none, line⟩] }
  returns := none
  decorators := []
  body := call.toList.map fun (made, called) =>
    let place : Position := ⟨line + 1, 8⟩
    .expr (.call (.member (.call (.name made) [] place) called) [] place) place.line

/-- A class of some methods. -/
def declaration (name : String) (line : Nat) (methods : List Function) : ClassDef where
  name
  line
  bases := []
  body := methods.map .function

/-- The first class calls the third one itself, and through the second one. -/
def classO : ClassDef :=
  declaration "O" 1 [method "first" 6 (some ("X", "x")), method "second" 9 (some ("Y", "y"))]

/-- The second class makes the way to the third one longer. -/
def classX : ClassDef := declaration "X" 13 [method "x" 18 (some ("Y", "y"))]

/-- The third class is as far from the last one as chains may lead. -/
def classY : ClassDef := declaration "Y" 22 [method "y" 27 (some ("Z", "z"))]

/-- The fourth class calls the last one. -/
def classZ : ClassDef := declaration "Z" 31 [method "z" 36 (some ("T", "t"))]

/-- The last class calls nothing. -/
def classT : ClassDef := declaration "T" 40 [method "t" 45 none]

def path : Path := ⟨["project", "app.py"]⟩

/-- The program of the five classes. -/
def program : Program :=
  ({} : Program).store default
    (.ofBody "app" false path ([classO, classX, classY, classZ, classT].map .classDef))

/-- The program with its tables written out. -/
theorem program_eq : program =
    let source : SourceModule :=
      .ofBody "app" false path ([classO, classX, classY, classZ, classT].map .classDef)
    { modules := Entries.insert ∅ "app" source
      files := Entries.insert ∅ path.text "app"
      classes := source.classes.values.foldl (fun classes c => classes.insert c.id c) ∅ } := rfl

def component (name : String) : Component where
  name
  description := ""
  location := { file := "/project/app.py", declaration := name, line := 1 }

def components : List Component := ["O", "X", "Y", "Z", "T"].map component

/-- A method of one of the classes. -/
def node (c : ClassDef) (f : Function) : MethodNode where
  component := component c.name
  id := ⟨"app", c.name⟩
  owner := ⟨⟨"app", c.name⟩, path, c, methodsOf c.body⟩
  name := f.name
  function := f

/-- The method of the first class that calls the third one. -/
def second : MethodNode := node classO (method "second" 9 (some ("Y", "y")))

def y : MethodNode := node classY (method "y" 27 (some ("Z", "z")))

def z : MethodNode := node classZ (method "z" 36 (some ("T", "t")))

/-- The call of the last class. -/
def site : CallSite := ⟨⟨"app", "T"⟩, "t", .newObject, 37⟩

theorem indexed : program.Indexed := .file default path _ rfl (.new none)

theorem idOf?_component :
    ∀ name ∈ ["O", "X", "Y", "Z", "T"], program.idOf? (component name) = some ⟨"app", name⟩ := by
  simp only [List.forall_mem_cons]
  refine ⟨?_, ?_, ?_, ?_, ?_, by simp⟩ <;> decide +kernel

theorem distinct_map {names : List String}
    (known : ∀ name ∈ names, name ∈ ["O", "X", "Y", "Z", "T"]) (distinct : names.Nodup) :
    program.Distinct (names.map component) where
  classes := by
    have ids : (names.map component).filterMap program.idOf? = names.map (⟨"app", ·⟩) := by
      rw [List.filterMap_map, ← List.filterMap_eq_map]
      exact List.filterMap_congr fun name hn => idOf?_component name (known name hn)
    rw [ids]
    exact distinct.map fun _ _ e => (ClassId.mk.inj e).2
  names := by simpa [Component.names, Function.comp_def, component] using distinct

theorem distinct : program.Distinct components :=
  distinct_map (fun _ h => h) (by decide)

theorem second_isOwn : program.IsOwn second := ⟨rfl, rfl⟩

theorem second_isNode : program.IsNode components second :=
  second_isOwn.isNode (by decide) (idOf?_component "O" (by decide))

theorem y_isNode : program.IsNode components y :=
  (⟨rfl, rfl⟩ : program.IsOwn y).isNode (by decide) (idOf?_component "Y" (by decide))

theorem z_isNode : program.IsNode components z :=
  (⟨rfl, rfl⟩ : program.IsOwn z).isNode (by decide) (idOf?_component "Z" (by decide))

/-- Each method on the way calls the next class, which is made for the call. -/
theorem callSites_eq :
    program.callSites second.owner second.function = [⟨⟨"app", "Y"⟩, "y", .newObject, 10⟩] ∧
      program.callSites y.owner y.function = [⟨⟨"app", "Z"⟩, "z", .newObject, 28⟩] ∧
      program.callSites z.owner z.function = [site] := by
  rw [program_eq]
  refine ⟨?_, ?_, ?_⟩ <;> cbv

theorem second_calls_y : program.Calls components second y := by
  refine ⟨y_isNode, ⟨⟨"app", "Y"⟩, "y", .newObject, 10⟩, ⟨?_, y_isNode.1, y_isNode.2, ?_, ?_⟩, rfl⟩
  · simp [callSites_eq.1]
  all_goals decide

theorem y_calls_z : program.Calls components y z := by
  refine ⟨z_isNode, ⟨⟨"app", "Z"⟩, "z", .newObject, 28⟩, ⟨?_, z_isNode.1, z_isNode.2, ?_, ?_⟩, rfl⟩
  · simp [callSites_eq.2.1]
  all_goals decide

theorem z_callsAt : program.CallsAt components z site (component "T") := by
  refine ⟨?_, by decide, idOf?_component "T" (by decide), by decide, by decide⟩
  simp [callSites_eq.2.2]

/-- The short path from the first class to the call of the last one. -/
theorem callPath : program.CallPath components (component "O") ([second, y] ++ [z]) := by
  have root : program.CallPath components (component "O") ([] ++ [second]) :=
    .singleton second_isNode rfl second_isOwn
  have next : program.CallPath components (component "O") ([second] ++ [y]) :=
    root.concat second_calls_y (by decide) (by decide)
  exact next.concat y_calls_z (by decide) (by decide)

/-- Nothing is reached of the last class if chains have three methods at most. -/
theorem reached_eq_nil :
    ((UsageFinder.used program 3 []).find components).1.index.reached "O" "T" = [] := by
  rw [UsageMatch.reached_index, UsageFinder.findings_find_used indexed, program_eq]
  cbv

end Detour

namespace UsageFinder

/-! ## Paths -/

section paths

variable {p : Program} (hp : p.Indexed) {cs : List Component} (h : p.Distinct cs) {d : Int}
  (history : List (List Component)) {o : Component} (ho : o ∈ cs)
include hp

theorem mem_reached_iff {target : String} {e : Evidence} :
    e ∈ ((used p d history).find cs).1.index.reached o.name target ↔
      .call o.name (.reach e) ∈ p.findings d cs ∧ e.target = target ∧ o.name ≠ target := by
  rw [UsageMatch.reached_index, mem_dedupe, findings_find_used hp, List.mem_filterMap]
  simp only [UsageFinding.reach?_eq_some_iff]
  exact ⟨fun ⟨_, hf, rfl, ht⟩ => ⟨hf, ht⟩, fun ⟨hf, ht⟩ => ⟨_, hf, rfl, ht⟩⟩

include h ho

theorem exists_path_of_mem_reached {target : String} {e : Evidence}
    (he : e ∈ ((used p d history).find cs).1.index.reached o.name target) :
    ∃ path n site t, path ≠ [] ∧ p.CallPath cs o (path ++ [n]) ∧
      ((path ++ [n]).length : Int) ≤ d ∧ p.CallsAt cs n site t ∧ t ≠ o ∧ t.name = target ∧
      e = UsageScope.evidence (path ++ [n]) n (site, t) := by
  obtain ⟨found, rfl, away⟩ := (mem_reached_iff hp history).1 he
  obtain ⟨id, hi, found⟩ := (Program.call_mem_findings_iff h ho).1 found
  obtain ⟨chain, n, x, hc, hn, hx, rfl⟩ := UsageScope.found_reach hp (h.lists d) ho hi found
  obtain ⟨path, rfl⟩ := hc.last
  refine ⟨path, n, x.1, x.2, ?_, hc.path, hc.length_le hn, hx, ?_, rfl, rfl⟩
  · rintro rfl
    exact hn (hc.component_eq_iff.2 rfl)
  · rintro ht
    exact away (ht ▸ rfl)

/-- The call sites of a method that is entered are reached. -/
theorem mem_reached_of_expanded {id : ClassId} (hi : p.idOf? o = some id)
    {entered known : ClassId × String → Prop} {n : MethodNode} {chain : List MethodNode}
    (ex : CallWalk.Expanded (p.usageScope d cs) cs o id
      (fun e => .call o.name e ∈ (p.usageScope d cs).found id o) entered known n chain)
    (hn : n.component ≠ o) {site : CallSite} {t : Component} (ht : p.CallsAt cs n site t)
    (away : t ≠ o) :
    UsageScope.evidence chain n (site, t) ∈
      ((used p d history).find cs).1.index.reached o.name t.name := by
  have met := ex.sites (site, t) ((h.lists d).mem_sites_iff.2 ht)
  have other : n.id ≠ id := fun e => hn ((ex.followed.isNode.component_eq_iff h ho hi).2 e)
  rw [UsageScope.callEvent, if_neg other] at met
  exact (mem_reached_iff hp history).2 ⟨(Program.call_mem_findings_iff h ho).2 ⟨id, hi, met⟩, rfl,
    fun e => away (h.eq_of_name ht.target_mem ho e.symm)⟩

/-- With chains as long as there are methods, every call site of every method that paths lead to is
reached. -/
theorem mem_reached_of_reaches (hd : ((p.methodNodes cs).length : Int) ≤ d) {n : MethodNode}
    (hr : p.Reaches cs o n) (hn : n.component ≠ o) {site : CallSite} {t : Component}
    (ht : p.CallsAt cs n site t) (away : t ≠ o) :
    ∃ path, p.CallPath cs o (path ++ [n]) ∧ UsageScope.evidence (path ++ [n]) n (site, t) ∈
      ((used p d history).find cs).1.index.reached o.name t.name := by
  obtain ⟨id, hi⟩ := hr.idOf?
  obtain ⟨entered, roots, closed⟩ := UsageScope.exists_closed hp (h.lists d) ho hi
  -- Methods that are entered are closed under calls, since no chain can be too long.
  have all : ∀ {n}, p.Reaches cs o n → entered n.key := by
    intro n hr
    induction hr with
    | own node component own => exact roots _ node component own
    | call before calls away ih =>
      obtain ⟨chain, ex⟩ := closed.expanded (h.lists d) before.isNode ih
      exact ex.entered_of_calls hd calls away
  obtain ⟨chain, ex⟩ := closed.expanded (h.lists d) hr.isNode (all hr)
  obtain ⟨path, rfl⟩ := ex.followed.last
  exact ⟨path, ex.followed.path, mem_reached_of_expanded hp h history ho hi ex hn ht away⟩

/-- **What a component reaches.** Everything that it reaches of another component is a call site at
the end of a path of calls from a method in the body of its class through at most `d` methods. If
there are no more than `d` methods then every call site of every method of another component that
paths lead to is reached. -/
theorem reached_paths :
    (∀ target, ∀ e ∈ ((used p d history).find cs).1.index.reached o.name target,
      ∃ path n site t, path ≠ [] ∧ p.CallPath cs o (path ++ [n]) ∧
        (∃ n₀ ∈ path.head?, n₀.component = o ∧ .function n₀.function ∈ n₀.owner.decl.body) ∧
        ((path ++ [n]).length : Int) ≤ d ∧ p.CallsAt cs n site t ∧ t ≠ o ∧ t.name = target ∧
        e = UsageScope.evidence (path ++ [n]) n (site, t)) ∧
    (((p.methodNodes cs).length : Int) ≤ d → ∀ n, p.Reaches cs o n → n.component ≠ o →
      ∀ site t, p.CallsAt cs n site t → t ≠ o →
        ∃ path, p.CallPath cs o (path ++ [n]) ∧ UsageScope.evidence (path ++ [n]) n (site, t) ∈
          ((used p d history).find cs).1.index.reached o.name t.name) := by
  refine ⟨fun target e he => ?_, fun hd n hr hn site t ht away =>
    mem_reached_of_reaches hp h history ho hd hr hn ht away⟩
  obtain ⟨path, n, site, t, hne, hpath, rest⟩ := exists_path_of_mem_reached hp h history ho he
  refine ⟨path, n, site, t, hne, hpath, ?_, rest⟩
  obtain ⟨n₀, hn₀, hc, own⟩ := hpath.start
  rw [List.head?_append_of_ne_nil _ hne] at hn₀
  exact ⟨n₀, hn₀, hc, hp.isOwn_mem_body own⟩

omit hp h ho in
theorem reached_paths_detour : ∃ path,
    Detour.program.CallPath Detour.components (Detour.component "O") (path ++ [Detour.z]) ∧
      UsageScope.evidence (path ++ [Detour.z]) Detour.z (Detour.site, Detour.component "T") ∈
        ((used Detour.program 6 []).find Detour.components).1.index.reached "O" "T" := by
  have count : ((Detour.program.methodNodes Detour.components).length : Int) ≤ 6 := by
    rw [show (Detour.program.methodNodes Detour.components).length = 6 by decide +kernel]
    decide
  exact (reached_paths Detour.indexed Detour.distinct [] (by decide)).2 count Detour.z
    (Detour.callPath.reaches Detour.z (by simp)) (by decide) Detour.site (Detour.component "T")
    Detour.z_callsAt (by decide)

end paths

/-! ## Calls that are cut off -/

section cutOff

/-- The calls of a method were cut off where it was entered, at the end of a chain of the greatest
length. -/
def CutOff (p : Program) (cs : List Component) (o : Component) (d : Int)
    (findings : List UsageFinding) (m : MethodNode) : Prop :=
  ∃ chain, p.CallPath cs o (chain ++ [m]) ∧ ((chain ++ [m]).length : Int) = d ∧
    .call o.name (.capped ((chain ++ [m]).map (·.label))) ∈ findings

variable {p : Program} (hp : p.Indexed) {cs : List Component} (h : p.Distinct cs) {d : Int}
  (history : List (List Component)) {o : Component} (ho : o ∈ cs)

/-- The calls of the component's own methods are not cut off if chains may have two methods. -/
theorem component_ne_of_cutOff (hd : 2 ≤ d) {findings : List UsageFinding} {m : MethodNode}
    (hm : CutOff p cs o d findings m) : m.component ≠ o := by
  obtain ⟨chain, path, hl, -⟩ := hm
  cases chain with
  | nil => simp at hl; omega
  | cons k chain => exact path.away m (by simp)

include h ho

/-- What a method calls that is entered is entered too, or its calls were cut off. -/
theorem entered_or_cutOff (hd : 2 ≤ d) {id : ClassId} (hi : p.idOf? o = some id)
    {entered : ClassId × String → Prop}
    (closed : (p.usageScope d cs).Closed cs o id entered)
    {m c : MethodNode} (node : p.IsNode cs m) (hm : entered m.key) (calls : p.Calls cs m c)
    (away : c.component ≠ o) :
    entered c.key ∨ CutOff p cs o d (p.findings d cs) m := by
  obtain ⟨chain, ex⟩ := closed.expanded (h.lists d) node hm
  refine (ex.callees c calls away).imp_right fun ⟨full, cap⟩ => ?_
  obtain ⟨above, rfl⟩ := ex.followed.last
  have length : ((above ++ [m]).length : Int) = d := by
    have short := ex.followed.short
    dsimp only [Program.usageScope] at short full
    omega
  exact ⟨above, ex.followed.path, length, (Program.call_mem_findings_iff h ho).2 ⟨id, hi, cap⟩⟩

/-- Along a path methods are entered until the calls of one are cut off. -/
theorem entered_last_or_cutOff (hd : 2 ≤ d) {id : ClassId} (hi : p.idOf? o = some id)
    {entered : ClassId × String → Prop}
    (closed : (p.usageScope d cs).Closed cs o id entered)
    {path : List MethodNode} {m n : MethodNode} (node : p.IsNode cs m) (hm : entered m.key)
    (linked : (m :: (path ++ [n])).IsChain (p.Calls cs))
    (away : ∀ k ∈ path ++ [n], k.component ≠ o) :
    entered n.key ∨ ∃ k ∈ m :: path, CutOff p cs o d (p.findings d cs) k := by
  induction path generalizing m with
  | nil =>
    have calls : p.Calls cs m n := linked.rel
    exact (entered_or_cutOff h ho hd hi closed node hm calls (away n (by simp))).imp_right
      fun cut => ⟨m, by simp, cut⟩
  | cons c path ih =>
    have calls : p.Calls cs m c := linked.rel
    rcases entered_or_cutOff h ho hd hi closed node hm calls (away c (by simp)) with hc | cut
    · have rest := ih calls.1 hc linked.tail fun k hk => away k (List.mem_cons_of_mem _ hk)
      exact rest.imp_right fun ⟨k, hk, cut⟩ => ⟨k, List.mem_cons_of_mem _ hk, cut⟩
    · exact .inr ⟨m, by simp, cut⟩

include hp

/-- **Call sites at the ends of paths.** A call site at the end of a path of calls through at most
`d` methods is reached, unless the calls of a method on the way were cut off at the end of another
chain, one of exactly `d` methods. -/
theorem reached_or_cutOff {path : List MethodNode} {n : MethodNode}
    (hpath : p.CallPath cs o (path ++ [n])) (hne : path ≠ [])
    (hd : ((path ++ [n]).length : Int) ≤ d) {site : CallSite} {t : Component}
    (ht : p.CallsAt cs n site t) (away : t ≠ o) :
    (∃ chain, UsageScope.evidence chain n (site, t) ∈
        ((used p d history).find cs).1.index.reached o.name t.name) ∨
      ∃ m ∈ path.tail, CutOff p cs o d ((used p d history).find cs).1.findings m := by
  rw [findings_find_used hp]
  obtain ⟨n₀, hn₀, ho₀, own⟩ := hpath.start
  cases path with
  | nil => exact absurd rfl hne
  | cons m path =>
    obtain rfl := Option.some.inj hn₀
    have node := hpath.node m (by simp)
    have hn : n.component ≠ o := hpath.away n (by simp)
    have two : 2 ≤ d := by
      simp only [List.length_append, List.length_cons, List.length_nil] at hd
      omega
    have hi := ho₀ ▸ node.id_eq
    obtain ⟨entered, roots, closed⟩ := UsageScope.exists_closed hp (h.lists d) ho hi
    -- Calls of the component's own method are not cut off, so a cut lies behind it.
    rcases entered_last_or_cutOff h ho two hi closed node (roots m node ho₀ own) hpath.linked
      hpath.away with hk | ⟨k, hk, cut⟩
    · obtain ⟨chain, ex⟩ := closed.expanded (h.lists d) (hpath.node n (by simp)) hk
      exact .inl ⟨chain, mem_reached_of_expanded hp h history ho hi ex hn ht away⟩
    · rcases List.mem_cons.1 hk with rfl | hk
      · exact absurd ho₀ (component_ne_of_cutOff two cut)
      · exact .inr ⟨k, hk, cut⟩

omit hp h ho in
theorem cutOff_detour :
    ∃ m ∈ [Detour.y], CutOff Detour.program Detour.components (Detour.component "O") 3
      ((used Detour.program 3 []).find Detour.components).1.findings m := by
  have either := reached_or_cutOff Detour.indexed Detour.distinct [] (by decide) Detour.callPath
    (by simp) (d := 3) (by simp) Detour.z_callsAt (by decide)
  refine either.resolve_left fun ⟨chain, he⟩ => ?_
  rw [show (Detour.component "O").name = "O" from rfl,
    show (Detour.component "T").name = "T" from rfl, Detour.reached_eq_nil] at he
  cases he

omit hp h ho in
/-- The bound on the length of chains may hide what a path within the bound leads to. -/
theorem not_forall_path_reached :
    ¬ ∀ (p : Program) (cs : List Component) (d : Int) (o : Component) (path : List MethodNode)
      (n : MethodNode) (site : CallSite) (t : Component), p.Indexed → p.Distinct cs → 1 ≤ d →
      o ∈ cs → p.CallPath cs o (path ++ [n]) → path ≠ [] → ((path ++ [n]).length : Int) ≤ d →
      p.CallsAt cs n site t → t ≠ o →
      ∃ chain, UsageScope.evidence chain n (site, t) ∈
        ((used p d []).find cs).1.index.reached o.name t.name := by
  intro all
  obtain ⟨chain, he⟩ := all Detour.program Detour.components 3 (Detour.component "O")
    [Detour.second, Detour.y] Detour.z Detour.site (Detour.component "T") Detour.indexed
    Detour.distinct (by decide) (by decide) Detour.callPath (by simp) (by simp) Detour.z_callsAt
    (by decide)
  have empty := Detour.reached_eq_nil
  rw [show "O" = (Detour.component "O").name from rfl,
    show "T" = (Detour.component "T").name from rfl] at empty
  rw [empty] at he
  cases he

end cutOff

end UsageFinder

end ArchModel
