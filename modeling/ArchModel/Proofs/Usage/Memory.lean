import ArchModel.Proofs.Usage.Walk
import Mathlib.Data.List.Forall2

/-!
# What a search remembers is right

A finder that searched before finds what a search without memory finds.

* `UsageMemory.Remembers` holds of memory whose fields and call sites are those of the program,
  `UsageMemory.Sound` also asks that numbers stand for the methods that they were given to.
* `Sound.fields`, `Sound.callSites`, `Sound.number` and `Sound.callees` say what each use of memory
  gives and that it keeps memory sound.
* `CallSearch.Follows` relates a search to a walk. Every step keeps it (`Follows.step`), so a whole
  search does (`Follows.run`).
* **`UsageFinder.find_findings`**: a finder whose memory is right finds what the scope alone says,
  and its memory stays right.
-/

namespace ArchModel

open Source

namespace UsageMemory

/-- A number stands for a method. -/
def Stands (m : UsageMemory) (i : Nat) (n : MethodNode) : Prop := m.arena[i]? = some n

/-- A number stands for a method of a class and name. -/
def StandsAt (m : UsageMemory) (i : Nat) (k : ClassId × String) : Prop :=
  ∃ n, m.Stands i n ∧ n.key = k

/-- What is remembered of classes and methods is what a program says. -/
structure Remembers (m : UsageMemory) (p : Program) : Prop where
  fields : ∀ {id c fs}, p.class? id = some c → m.fieldsOf.get? id = some fs → fs = p.fields c
  sites : ∀ {id c name f ss}, p.class? id = some c → c.methods.get? name = some f →
    m.sitesOf.get? (id, name) = some ss → ss = p.callSites c f

/-- Memory is right in a scope. -/
structure Sound (m : UsageMemory) (s : UsageScope) : Prop where
  remembers : m.Remembers s.program
  listed : ∀ {i n}, m.Stands i n → m.numbers.get? n.key = some (some i)
  found : ∀ {id name i}, m.numbers.get? (id, name) = some (some i) →
    ∃ n, s.node? id name = some n ∧ m.Stands i n
  missing : ∀ {id name}, m.numbers.get? (id, name) = some none → s.node? id name = none

/-- Memory became other memory that is right, and numbers kept their methods. -/
structure Grows (m : UsageMemory) (s : UsageScope) (m' : UsageMemory) : Prop where
  sound : m'.Sound s
  stands : ∀ {i n}, m.Stands i n → m'.Stands i n

variable {m m' m'' : UsageMemory} {s : UsageScope}

theorem Grows.trans (h : m.Grows s m') (h' : m'.Grows s m'') : m.Grows s m'' where
  sound := h'.sound
  stands hn := h'.stands (h.stands hn)

theorem Grows.standsAt (h : m.Grows s m') {i : Nat} {k : ClassId × String}
    (hi : m.StandsAt i k) : m'.StandsAt i k :=
  hi.imp fun _ hn => ⟨h.stands hn.1, hn.2⟩

theorem standsAt_keys {chain : List Nat} {nodes : List MethodNode}
    (h : chain.Forall₂ m.Stands nodes) : chain.Forall₂ m.StandsAt (nodes.map (·.key)) :=
  List.forall₂_map_right_iff.2 (h.imp fun _ n hi => ⟨n, hi, rfl⟩)

/-- Memory of fields and call sites that is right is right in every scope of the program, once
methods are numbered anew. -/
theorem Remembers.sound (h : m.Remembers s.program) :
    ({ m with arena := [], numbers := ∅ } : UsageMemory).Sound s where
  remembers := ⟨h.fields, h.sites⟩
  listed h := by simp [Stands] at h
  found h := by simp at h
  missing h := by simp at h

namespace Sound

theorem node? (h : m.Sound s) {i : Nat} {n : MethodNode} (hn : m.Stands i n) :
    s.node? n.id n.name = some n := by
  obtain ⟨n', hs, hn'⟩ := h.found (h.listed hn)
  obtain rfl := Option.some.inj (hn.symm.trans hn')
  exact hs

/-- A method has one number. -/
theorem eq_of_key (h : m.Sound s) {i j : Nat} {n : MethodNode} (hi : m.Stands i n)
    (hj : m.StandsAt j n.key) : i = j := by
  obtain ⟨n', hn', hk⟩ := hj
  have same := (h.listed hi).symm.trans (hk ▸ h.listed hn')
  exact Option.some.inj (Option.some.inj same)

/-- Numbers are listed where what they stand for is listed. -/
theorem mem_iff (h : m.Sound s) {i : Nat} {n : MethodNode} (hi : m.Stands i n) {is : List Nat}
    {ks : List (ClassId × String)} (hs : is.Forall₂ m.StandsAt ks) : i ∈ is ↔ n.key ∈ ks := by
  induction hs with
  | nil => simp
  | @cons j k is ks hj _ ih =>
    have head : i = j ↔ n.key = k := by
      refine ⟨?_, fun hk => h.eq_of_key hi (hk ▸ hj)⟩
      rintro rfl
      obtain ⟨n', hn', rfl⟩ := hj
      obtain rfl := Option.some.inj (hi.symm.trans hn')
      rfl
    rw [List.mem_cons, List.mem_cons, head, ih]

/-! ## Uses of memory -/

theorem fields (h : m.Sound s) {c : ClassInfo} (hc : s.program.class? c.id = some c) :
    (m.fields s.program c).1 = s.program.fields c ∧ m.Grows s (m.fields s.program c).2 := by
  unfold UsageMemory.fields
  split
  · next fs hfs => exact ⟨h.remembers.fields hc hfs, h, id⟩
  · refine ⟨rfl, ⟨⟨?_, h.remembers.sites⟩, h.listed, h.found, h.missing⟩, id⟩
    intro id c' fs hc' hfs
    rcases Entries.get?_insert_eq_some hfs with ⟨rfl, rfl⟩ | hfs
    · obtain rfl := Option.some.inj (hc.symm.trans hc')
      rfl
    · exact h.remembers.fields hc' hfs

theorem callSites (h : m.Sound s) {n : MethodNode} (hc : s.program.class? n.owner.id = some n.owner)
    (hf : n.owner.methods.get? n.name = some n.function) :
    (m.callSites s.program n).1 = s.program.callSites n.owner n.function ∧
      m.Grows s (m.callSites s.program n).2 := by
  unfold UsageMemory.callSites
  split
  · next ss hss => exact ⟨h.remembers.sites hc hf hss, h, id⟩
  · obtain ⟨eq, grows⟩ := h.fields hc
    have right := grows.sound
    refine ⟨by rw [Program.callSites, ← eq], ⟨⟨right.remembers.fields, ?_⟩, right.listed,
      right.found, right.missing⟩, grows.stands⟩
    intro id c name f ss hc' hf' hss
    rcases Entries.get?_insert_eq_some hss with ⟨hk, rfl⟩ | hss
    · obtain ⟨rfl, rfl⟩ := Prod.mk.inj hk
      obtain rfl := Option.some.inj (hc.symm.trans hc')
      obtain rfl := Option.some.inj (hf.symm.trans hf')
      rw [eq]
      rfl
    · exact right.remembers.sites hc' hf' hss

/-- A method that was not met before gets the next number. -/
theorem add (h : m.Sound s) {id : ClassId} {name : String} {n : MethodNode}
    (hn : s.node? id name = some n) (new : m.numbers.get? (id, name) = none) :
    m.Grows s { m with
      arena := m.arena ++ [n], numbers := m.numbers.insert (id, name) (some m.arena.length) } := by
  have key := (UsageScope.node?_eq_some_iff.1 hn).1
  have stands : ∀ {i n'}, (m.arena ++ [n])[i]? = some n' ↔
      m.Stands i n' ∨ i = m.arena.length ∧ n = n' := by
    intro i n'
    grind [Stands]
  refine ⟨⟨⟨h.remembers.fields, h.remembers.sites⟩, ?_, ?_, ?_⟩, fun hi => stands.2 (.inl hi)⟩
  · intro i n' hi
    rw [Entries.get?_insert]
    rcases stands.1 hi with hi | ⟨rfl, rfl⟩
    · rw [if_neg fun e => by simp [e, h.listed hi] at new]
      exact h.listed hi
    · rw [if_pos key.symm]
  · intro id' name' i hi
    rcases Entries.get?_insert_eq_some hi with ⟨hk, number⟩ | hi
    · obtain ⟨rfl, rfl⟩ := Prod.mk.inj hk
      exact ⟨n, hn, stands.2 (.inr ⟨(Option.some.inj number).symm, rfl⟩)⟩
    · obtain ⟨n', hn', hi⟩ := h.found hi
      exact ⟨n', hn', stands.2 (.inl hi)⟩
  · intro id' name' hi
    rcases Entries.get?_insert_eq_some hi with ⟨-, number⟩ | hi
    · cases number
    · exact h.missing hi

/-- Where there is no method this is remembered. -/
theorem pass (h : m.Sound s) {id : ClassId} {name : String} (hn : s.node? id name = none) :
    m.Grows s { m with numbers := m.numbers.insert (id, name) none } := by
  refine ⟨⟨⟨h.remembers.fields, h.remembers.sites⟩, ?_, ?_, ?_⟩, fun hi => hi⟩
  · intro i n' hi
    have key : (id, name) ≠ n'.key := by
      rintro e
      obtain ⟨rfl, rfl⟩ := Prod.mk.inj e
      rw [h.node? hi] at hn
      cases hn
    rw [Entries.get?_insert, if_neg key]
    exact h.listed hi
  · intro id' name' i hi
    rcases Entries.get?_insert_eq_some hi with ⟨-, number⟩ | hi
    · cases number
    · exact h.found hi
  · intro id' name' hi
    rcases Entries.get?_insert_eq_some hi with ⟨hk, -⟩ | hi
    · obtain ⟨rfl, rfl⟩ := Prod.mk.inj hk
      exact hn
    · exact h.missing hi

theorem number (h : m.Sound s) (id : ClassId) (name : String) :
    (m.number s id name).1.Rel (m.number s id name).2.Stands (s.node? id name) ∧
      m.Grows s (m.number s id name).2 := by
  unfold UsageMemory.number
  split
  · next i hi =>
    refine ⟨?_, h, fun hi => hi⟩
    cases i with
    | none => simp [h.missing hi]
    | some i =>
      obtain ⟨n, hn, hi⟩ := h.found hi
      simpa [hn] using hi
  · next new =>
    cases hn : s.node? id name with
    | none => exact ⟨.none, h.pass hn⟩
    | some n => exact ⟨.some (by simp [Stands]), h.add hn new⟩

/-- The callees that a search looks up by number are those of a walk. -/
theorem callees (h : m.Sound s) {origin : ClassId} {chain : List Nat} {nodes : List MethodNode}
    (hc : chain.Forall₂ m.Stands nodes) (sites : List (CallSite × Component)) :
    (UsageMemory.callees s origin chain sites m).1.Forall₂
        (UsageMemory.callees s origin chain sites m).2.Stands
        (sites.filterMap fun (site, _) =>
          if site.target = origin then none
          else (s.node? site.target site.method).filter fun c => c.key ∉ nodes.map (·.key)) ∧
      m.Grows s (UsageMemory.callees s origin chain sites m).2 := by
  induction sites generalizing m with
  | nil => exact ⟨.nil, h, fun hi => hi⟩
  | cons x sites ih =>
    obtain ⟨site, t⟩ := x
    rw [UsageMemory.callees, List.filterMap_cons]
    by_cases ho : site.target = origin
    · simp only [ho, if_true]
      exact ih h hc
    simp only [ho, if_false]
    obtain ⟨num, grows⟩ := h.number site.target site.method
    generalize m.number s site.target site.method = r at *
    obtain ⟨i, m₁⟩ := r
    generalize s.node? site.target site.method = c at *
    have hc := hc.imp fun _ _ => grows.stands
    obtain ⟨rest, grows'⟩ := ih grows.sound hc
    refine ⟨?_, grows.trans grows'⟩
    cases num with
    | none => simpa using rest
    | @some i c hi =>
      have known : i ∈ chain ↔ c.key ∈ nodes.map (·.key) :=
        grows.sound.mem_iff hi (standsAt_keys hc)
      rw [Option.filter_some, Option.filter_some]
      by_cases hm : i ∈ chain
      · rw [if_neg (by simpa using hm), if_neg (by simpa using known.1 hm)]
        exact rest
      · have away := fun hk => hm (known.2 hk)
        rw [if_pos (by simpa using hm), if_pos (by simpa using away)]
        exact .cons (grows'.stands hi) rest

end Sound

theorem filterMap_stands {chain : List Nat} {nodes : List MethodNode}
    (h : chain.Forall₂ m.Stands nodes) : chain.filterMap (m.arena[·]?) = nodes := by
  induction h with
  | nil => rfl
  | cons hi _ ih => rw [List.filterMap_cons_some hi, ih]

end UsageMemory

/-! ## A search follows a walk -/

namespace CallSearch

/-- A search is where a walk is, and what it remembers is right. -/
structure Follows (s : UsageScope) (w : CallSearch) (v : CallWalk) : Prop where
  sound : w.memory.Sound s
  events : w.events = v.events
  entered : w.entered.Forall₂ w.memory.StandsAt v.entered
  waiting : w.waiting.Forall₂
    (fun x y => w.memory.Stands x.1 y.1 ∧ x.2.Forall₂ w.memory.Stands y.2) v.waiting

/-- What a search is after it entered a method: what memory gave counts, and how memory became. -/
theorem step_enter {s : UsageScope} {origin : ClassId} {w : CallSearch} {i : Nat}
    {chain : List Nat} {rest : List (Nat × List Nat)} (hw : w.waiting = (i, chain) :: rest)
    (new : i ∉ w.entered) {n : MethodNode} (hi : w.memory.Stands i n) {nodes : List MethodNode}
    (hc : chain.Forall₂ w.memory.Stands nodes) {sites : List CallSite} {m m' : UsageMemory}
    (hs : w.memory.callSites s.program n = (sites, m)) {is : List Nat}
    (hr : UsageMemory.callees s origin chain (s.linked n sites) m = (is, m')) :
    w.step s origin =
      { memory := m'
        entered := i :: w.entered
        events := w.events ++ ((s.linked n sites).map (UsageScope.callEvent origin nodes n) ++
          if chain.length < s.maxDepth then []
          else is.map fun _ => .capped (nodes.map (·.label)))
        waiting := (if chain.length < s.maxDepth then is.map fun c => (c, chain ++ [c]) else []) ++
          rest } := by
  have at_i : w.memory.arena[i]? = some n := hi
  rw [step, hw]
  simp only [new, if_false, at_i, hs, hr, UsageMemory.filterMap_stands hc]
  split
  · rw [List.append_nil]
  · rw [List.append_assoc, List.nil_append]

namespace Follows

variable {s : UsageScope} {origin : ClassId} {w : CallSearch} {v : CallWalk}

theorem callsLeft_eq (h : Follows s w v) : w.callsLeft s = v.callsLeft s := by
  have same := h.waiting
  unfold CallSearch.callsLeft CallWalk.callsLeft
  generalize w.waiting = l at *
  generalize v.waiting = l' at *
  induction same with
  | nil => rfl
  | cons hx _ ih => simp only [List.map_cons, ih, hx.2.length_eq]

/-- Methods that wait before and after memory grew. -/
theorem waiting_grows {m m' : UsageMemory} (h : m.Grows s m') {l : List (Nat × List Nat)}
    {l' : List (MethodNode × List MethodNode)}
    (hl : l.Forall₂ (fun x y => m.Stands x.1 y.1 ∧ x.2.Forall₂ m.Stands y.2) l') :
    l.Forall₂ (fun x y => m'.Stands x.1 y.1 ∧ x.2.Forall₂ m'.Stands y.2) l' :=
  hl.imp fun _ _ hx => ⟨h.stands hx.1, hx.2.imp fun _ _ => h.stands⟩

/-- What comes to wait in a search is what comes to wait in a walk. -/
theorem waiting_next {m : UsageMemory} {chain : List Nat} {nodes : List MethodNode}
    (hc : chain.Forall₂ m.Stands nodes) {is : List Nat} {n : MethodNode}
    (hr : is.Forall₂ m.Stands (s.callees origin nodes n)) :
    (if chain.length < s.maxDepth then is.map fun c => (c, chain ++ [c]) else []).Forall₂
      (fun x y => m.Stands x.1 y.1 ∧ x.2.Forall₂ m.Stands y.2) (s.next origin nodes n) := by
  rw [UsageScope.next, hc.length_eq]
  split
  · rw [List.forall₂_map_left_iff, List.forall₂_map_right_iff]
    exact hr.imp fun c c' hcc => ⟨hcc, List.rel_append hc (.cons hcc .nil)⟩
  · exact .nil

/-- What a search meets is what a walk meets. -/
theorem events_met {chain : List Nat} {nodes : List MethodNode}
    (length : chain.length = nodes.length) {is : List Nat} {n : MethodNode}
    (count : is.length = (s.callees origin nodes n).length) :
    ((s.sites n).map (UsageScope.callEvent origin nodes n) ++
      if chain.length < s.maxDepth then []
      else is.map fun _ => .capped (nodes.map (·.label))) = s.met origin nodes n := by
  rw [UsageScope.met, length, List.map_const', List.map_const', count]

theorem step (hp : s.program.Indexed) (h : Follows s w v) :
    Follows s (w.step s origin) (v.step s origin) := by
  obtain ⟨sound, events, entered, waiting⟩ := h
  cases hv : v.waiting with
  | nil =>
    have hw : w.waiting = [] := by simpa [hv] using waiting
    rw [CallSearch.step, CallWalk.step, hv, hw]
    exact ⟨sound, events, entered, by simp [hv, hw]⟩
  | cons y rest' =>
    obtain ⟨n, nodes⟩ := y
    rw [hv, List.forall₂_cons_right_iff] at waiting
    obtain ⟨⟨i, chain⟩, rest, ⟨hi, hc⟩, hrest, hw⟩ := waiting
    have known : i ∈ w.entered ↔ n.key ∈ v.entered := sound.mem_iff hi entered
    by_cases hn : n.key ∈ v.entered
    · rw [CallWalk.step_known hv hn, CallSearch.step, hw]
      simp only [known.2 hn, if_true]
      exact ⟨sound, events, entered, hrest⟩
    · -- Reading the call sites and numbering the callees both let memory grow.
      have recorded := hp.method?_recorded (UsageScope.node?_eq_some_iff.1 (sound.node? hi)).2.1
      obtain ⟨sites, grows⟩ := sound.callSites recorded.1 recorded.2
      obtain ⟨callees, grows'⟩ := @UsageMemory.Sound.callees _ s grows.sound origin chain nodes
        (hc.imp fun _ _ => grows.stands) (s.linked n (s.program.callSites n.owner n.function))
      have all := grows.trans grows'
      rw [step_enter hw (known.not.2 hn) hi hc (Prod.ext sites rfl) rfl, CallWalk.step_enter hv hn]
      refine ⟨all.sound, ?_, ?_, ?_⟩
      · rw [events, ← events_met hc.length_eq callees.length_eq]
        rfl
      · exact .cons (all.standsAt ⟨n, hi, rfl⟩) (entered.imp fun _ _ => all.standsAt)
      · exact List.rel_append (waiting_next (hc.imp fun _ _ => all.stands) callees)
          (waiting_grows all hrest)

theorem run (hp : s.program.Indexed) (h : Follows s w v) :
    Follows s (w.run s origin) (v.run s origin) :=
  runToEnd_simulation (CallSearch.step_descends s origin) (CallWalk.step_descends s origin)
    (fun _ _ => callsLeft_eq) (fun _ _ _ => step hp) h

theorem start (hp : s.program.Indexed) (h : Follows s w v) (method : String) :
    Follows s (w.start s origin method) (v.start s origin method) := by
  obtain ⟨sound, events, entered, waiting⟩ := h
  obtain ⟨num, grows⟩ := sound.number origin method
  unfold CallSearch.start CallWalk.start
  generalize w.memory.number s origin method = r at *
  obtain ⟨i, m'⟩ := r
  generalize s.node? origin method = n at *
  have entered' := entered.imp fun _ _ => grows.standsAt
  cases num with
  | none => exact ⟨grows.sound, events, entered', waiting_grows grows waiting⟩
  | some hi =>
    refine run hp ⟨grows.sound, events, entered', .cons ⟨hi, .cons hi .nil⟩ .nil⟩

end Follows

end CallSearch

namespace UsageScope

variable {s : UsageScope}

/-- What is found in the methods of a class, with memory and without. -/
theorem foldl_scanMethod (hp : s.program.Indexed) (m : SourceModule) (c : ClassInfo) (id : ClassId)
    (source : Component) (methods : List (String × Function)) (found : List UsageFinding)
    {w : CallSearch} {v : CallWalk} (h : CallSearch.Follows s w v) :
    (methods.foldl (s.scanMethod m c id source) (found, w)).1 =
        (methods.foldl (s.walkMethod m c id source) (found, v)).1 ∧
      CallSearch.Follows s (methods.foldl (s.scanMethod m c id source) (found, w)).2
        (methods.foldl (s.walkMethod m c id source) (found, v)).2 := by
  induction methods generalizing found w v with
  | nil => exact ⟨rfl, h⟩
  | cons method methods ih =>
    have anew : CallSearch.Follows s { w with events := [] } { v with events := [] } :=
      ⟨h.sound, rfl, h.entered, h.waiting⟩
    have next : CallSearch.Follows s (CallSearch.start s id method.1 { w with events := [] })
        (CallWalk.start s id method.1 { v with events := [] }) := anew.start hp method.1
    rw [List.foldl_cons, List.foldl_cons, scanMethod, walkMethod]
    simp only [next.events]
    exact ih _ next

theorem scan_eq (hp : s.program.Indexed) {memory : UsageMemory} (h : memory.Sound s)
    (id : ClassId) (source : Component) :
    (s.scan memory id source).1 = s.found id source ∧ (s.scan memory id source).2.Sound s := by
  unfold scan found
  cases hc : s.program.class? id with
  | none => exact ⟨rfl, h⟩
  | some c =>
    cases hm : s.program.moduleOf? c with
    | none => simpa [hm] using h
    | some m =>
      obtain ⟨fields, grows⟩ := h.fields ((hp.class_id hc).symm ▸ hc)
      have begins : CallSearch.Follows s { memory := (memory.fields s.program c).2 } {} :=
        ⟨grows.sound, rfl, .nil, .nil⟩
      obtain ⟨same, follows⟩ := foldl_scanMethod hp m c id source c.methods.toList
        [] begins
      simp only [hm]
      exact ⟨by rw [same, fields], follows.sound⟩

theorem scanAll_eq (hp : s.program.Indexed) (listed : List (ClassId × Component))
    {memory : UsageMemory} (h : memory.Sound s) :
    (s.scanAll listed memory).1 = listed.flatMap (fun x => s.found x.1 x.2) ∧
      (s.scanAll listed memory).2.Sound s := by
  induction listed generalizing memory with
  | nil => exact ⟨rfl, h⟩
  | cons x rest ih =>
    obtain ⟨same, sound⟩ := scan_eq hp h x.1 x.2
    obtain ⟨more, sound'⟩ := ih sound
    rw [scanAll, List.flatMap_cons, ← same, ← more]
    exact ⟨rfl, sound'⟩

end UsageScope

namespace UsageFinder

/-- A finder whose memory is right finds what its scope alone says, and its memory stays right. -/
theorem find_findings {f : UsageFinder} (hp : f.program.Indexed) (h : f.memory.Remembers f.program)
    (cs : List Component) :
    (f.find cs).1.findings = (f.program.componentsById cs).toList.flatMap
        (fun x => (f.scope cs).found x.1 x.2) ∧
      (f.find cs).2.memory.Remembers f.program := by
  have sound := UsageMemory.Remembers.sound (s := f.scope cs) h
  obtain ⟨same, sound'⟩ := UsageScope.scanAll_eq hp (f.program.componentsById cs).toList sound
  exact ⟨same, sound'.remembers⟩

end UsageFinder

end ArchModel
