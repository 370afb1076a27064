import ArchModel.Proofs.After
import ArchModel.Proofs.Program.Agreement

/-!
# Names that are followed without a bound

A name that is looked for in a module leads from module to module, by one import after the other,
and imports may lead in a circle. Here is the walk that a name takes if nobody counts the imports,
and what following a name with a bound on them finds of it.

* `Program.Follows` is one import on the walk, `After` some of them. No place has two successors
  (`Follows.unique`), so a walk ends at a class, is stuck (`Program.Stuck`) or goes on for ever
  (`Program.Endless`).
* `Program.resolveIn_eq_some_iff`: without imports of all names of a module, following a name finds
  the class at the end of the walk, provided that there are no more imports on it than allowed.
* `Program.leadsTo_of_resolveIn`: with such imports, a class that is found lies in a module to which
  as many imports lead.
* **`Program.resolveExpr?_walk`** puts this together for dotted names.
-/

namespace ArchModel

open Source Text

/-! ## The walk of a name -/

/-- A name on its way: the module in which it is looked for, and its parts. -/
structure NamePlace where
  module : SourceModule
  parts : List String

/-- The class of the module that has the name. -/
def NamePlace.class? (s : NamePlace) : Option ClassInfo := s.module.classes.get? (join "." s.parts)

namespace Program

/-- The longest proper part at the front of a dotted name that is the name of a module, or a short
name that one module alone claims, stands for `m`, and `rest` is behind it. -/
def LongestFront (p : Program) (parts : List String) (m : SourceModule) (rest : List String) :
    Prop :=
  ∃ front, parts = front ++ rest ∧ front ≠ [] ∧ rest ≠ [] ∧
    p.module? (join "." front) = some m ∧
    ∀ front' rest', parts = front' ++ rest' → rest' ≠ [] → front.length < front'.length →
      p.module? (join "." front') = none

/-- One import on the walk of a name: the name is no class of the module, its first part is an
imported name and gives way to what that stands for. -/
inductive Follows (p : Program) : NamePlace → NamePlace → Prop
  | replaced {m next : SourceModule} {head target : String} {tail rest : List String}
      (unknown : NamePlace.class? ⟨m, head :: tail⟩ = none)
      (imported : m.imports.get? head = some target)
      (leads : p.LongestFront (split '.' target ++ tail) next rest) :
      Follows p ⟨m, head :: tail⟩ ⟨next, rest⟩

/-- The walk stops where the name is no class and leads no further. -/
def Stuck (p : Program) (start : NamePlace) : Prop :=
  ∃ k s, After p.Follows k start s ∧ s.class? = none ∧ ∀ t, ¬p.Follows s t

/-- The walk goes on for ever. -/
def Endless (p : Program) (start : NamePlace) : Prop := ∀ k, ∃ s, After p.Follows k start s

/-- The walk stops at a class. -/
def StopsAfter (p : Program) (k : Nat) (start : NamePlace) (c : ClassInfo) : Prop :=
  ∃ s, After p.Follows k start s ∧ s.class? = some c

/-- One module imports a name of another, or all its names. -/
inductive Imports (p : Program) : SourceModule → SourceModule → Prop
  | name {m next : SourceModule} {head target : String} {tail rest : List String}
      (imported : m.imports.get? head = some target)
      (leads : p.LongestFront (split '.' target ++ tail) next rest) : Imports p m next
  | all {m next : SourceModule} {star : String} (imported : star ∈ m.starImports)
      (named : p.module? star = some next) : Imports p m next

/-! ## The longest front -/

section front

variable {p : Program} {parts rest : List String} {m : SourceModule}

/-- Fronts are tried from the longest one down. -/
theorem ownerFrom?_eq_some_iff {count : Nat} (within : count < parts.length) :
    p.ownerFrom? parts count = some (m, rest) ↔
      ∃ n, 0 < n ∧ n ≤ count ∧ rest = parts.drop n ∧ p.module? (join "." (parts.take n)) = some m ∧
        ∀ k, n < k → k ≤ count → p.module? (join "." (parts.take k)) = none := by
  induction count with
  | zero =>
    simp only [ownerFrom?, reduceCtorEq, false_iff]
    rintro ⟨n, h0, hn, -⟩
    omega
  | succ count ih =>
    rw [ownerFrom?]
    split
    · next first found =>
      constructor
      · intro h
        obtain ⟨rfl, rfl⟩ := Prod.mk.inj (Option.some.inj h)
        exact ⟨count + 1, by omega, Nat.le_refl _, rfl, found,
          fun k hk hk' => absurd hk' (by omega)⟩
      · rintro ⟨n, -, hn, rfl, named, longer⟩
        obtain rfl : n = count + 1 := by
          by_contra hne
          simp [longer (count + 1) (by omega) (Nat.le_refl _)] at found
        rw [found] at named
        rw [Option.some.inj named]
    · next unknown =>
      rw [ih (by omega)]
      constructor
      · rintro ⟨n, h0, hn, hrest, named, longer⟩
        refine ⟨n, h0, by omega, hrest, named, fun k hk hk' => ?_⟩
        rcases Nat.le_succ_iff.1 hk' with h | rfl
        · exact longer k hk h
        · exact unknown
      · rintro ⟨n, h0, hn, hrest, named, longer⟩
        have hne : n ≠ count + 1 := by
          rintro rfl
          simp [unknown] at named
        exact ⟨n, h0, by omega, hrest, named, fun k hk hk' => longer k hk (by omega)⟩

theorem owner?_eq_some_iff : p.owner? parts = some (m, rest) ↔ p.LongestFront parts m rest := by
  cases parts with
  | nil =>
    refine iff_of_false (by simp [owner?, ownerFrom?]) ?_
    rintro ⟨front, whole, hne, -⟩
    exact hne (List.append_eq_nil_iff.1 whole.symm).1
  | cons part parts =>
    rw [owner?, ownerFrom?_eq_some_iff (by simp)]
    simp only [List.length_cons, Nat.add_sub_cancel]
    constructor
    · rintro ⟨n, h0, hn, rfl, named, longer⟩
      refine ⟨(part :: parts).take n, (List.take_append_drop _ _).symm, ?_, ?_, named, ?_⟩
      · simp; omega
      · simp; omega
      · intro front' rest' whole hne hlt
        have long : front'.length ≤ parts.length := by
          have := congrArg List.length whole
          have := List.length_pos_of_ne_nil hne
          simp at *
          omega
        have := longer front'.length (by simp at hlt; omega) long
        rwa [whole, List.take_left] at this
    · rintro ⟨front, whole, hfront, hrest, named, longer⟩
      have total := congrArg List.length whole
      have h0 := List.length_pos_of_ne_nil hfront
      have h1 := List.length_pos_of_ne_nil hrest
      simp only [List.length_cons, List.length_append] at total
      refine ⟨front.length, h0, by omega, by rw [whole, List.drop_left], ?_, fun k hk hk' => ?_⟩
      · rwa [whole, List.take_left]
      · refine longer _ _ (List.take_append_drop k _).symm ?_ ?_
        · simp; omega
        · simp; omega

end front

/-! ## The successor of a place -/

section walk

variable {p : Program} {s t u : NamePlace} {m : SourceModule} {parts : List String} {id : ClassId}

/-- Where an import leads from a place. -/
def follow? (p : Program) (s : NamePlace) : Option NamePlace :=
  (s.parts.head?.bind s.module.imports.get?).bind fun target =>
    (p.owner? (split '.' target ++ s.parts.tail)).map fun owner => ⟨owner.1, owner.2⟩

theorem follow?_eq_some_iff : p.follow? s = some t ↔
    ∃ head tail target, s.parts = head :: tail ∧ s.module.imports.get? head = some target ∧
      p.LongestFront (split '.' target ++ tail) t.module t.parts := by
  obtain ⟨m, parts⟩ := s
  obtain ⟨next, rest⟩ := t
  cases parts with
  | nil => simp [follow?]
  | cons head tail =>
    simp only [follow?, List.head?_cons, Option.bind_some, List.tail_cons, Option.bind_eq_some_iff,
      Option.map_eq_some_iff, Prod.exists, NamePlace.mk.injEq, List.cons.injEq]
    constructor
    · rintro ⟨target, imported, _, _, found, rfl, rfl⟩
      exact ⟨head, tail, target, ⟨rfl, rfl⟩, imported, owner?_eq_some_iff.1 found⟩
    · rintro ⟨_, _, target, ⟨rfl, rfl⟩, imported, leads⟩
      exact ⟨target, imported, next, rest, owner?_eq_some_iff.2 leads, rfl, rfl⟩

theorem follows_iff : p.Follows s t ↔ s.class? = none ∧ p.follow? s = some t := by
  rw [follow?_eq_some_iff]
  constructor
  · rintro ⟨unknown, imported, leads⟩
    exact ⟨unknown, _, _, _, rfl, imported, leads⟩
  · obtain ⟨m, parts⟩ := s
    rintro ⟨unknown, head, tail, target, rfl, imported, leads⟩
    exact .replaced unknown imported leads

theorem Follows.unique (ht : p.Follows s t) (hu : p.Follows s u) : t = u :=
  Option.some.inj ((follows_iff.1 ht).2.symm.trans (follows_iff.1 hu).2)

/-- A walk goes no further than a class. -/
theorem StopsAfter.zero_of_class {k : Nat} {c d : ClassInfo} (here : s.class? = some c)
    (h : p.StopsAfter k s d) : k = 0 ∧ c = d := by
  obtain ⟨t, walk, there⟩ := h
  cases walk with
  | here => exact ⟨rfl, Option.some.inj (here.symm.trans there)⟩
  | next first _ =>
    have unknown := (follows_iff.1 first).1
    simp [here] at unknown

theorem stopsAfter_of_class {k : Nat} {c d : ClassInfo} (here : s.class? = some c) :
    p.StopsAfter k s d ↔ k = 0 ∧ c = d :=
  ⟨fun h => h.zero_of_class here, fun ⟨hk, hc⟩ => hk ▸ ⟨s, .here s, hc ▸ here⟩⟩

theorem stopsAfter_of_follows {k : Nat} {c : ClassInfo} (h : p.Follows s t) :
    p.StopsAfter k s c ↔ ∃ n, k = n + 1 ∧ p.StopsAfter n t c := by
  constructor
  · rintro ⟨u, walk, there⟩
    cases walk with
    | here => simp [(follows_iff.1 h).1] at there
    | next first rest =>
      obtain rfl := h.unique first
      exact ⟨_, rfl, u, rest, there⟩
  · rintro ⟨n, rfl, u, rest, there⟩
    exact ⟨u, .next h rest, there⟩

theorem not_stopsAfter {k : Nat} {c : ClassInfo} (unknown : s.class? = none)
    (last : p.follow? s = none) : ¬p.StopsAfter k s c := by
  rintro ⟨u, walk, there⟩
  cases walk with
  | here => simp [unknown] at there
  | next first _ => simp [(follows_iff.1 first).2] at last

/-! ## Following a name with a bound -/

theorem resolveIn_of_class {limit : Nat} {c : ClassInfo}
    (h : NamePlace.class? ⟨m, parts⟩ = some c) : p.resolveIn limit m parts = some c.id := by
  unfold resolveIn
  rw [show m.classes.get? (join "." parts) = some c from h]

theorem resolveIn_zero (h : NamePlace.class? ⟨m, parts⟩ = none) :
    p.resolveIn 0 m parts = none := by
  unfold resolveIn
  rw [show m.classes.get? (join "." parts) = none from h]

/-- A name that is no class of its module leads to the place behind an import. -/
theorem resolveIn_succ {limit : Nat} (unknown : NamePlace.class? ⟨m, parts⟩ = none)
    (plain : m.starImports = []) :
    p.resolveIn (limit + 1) m parts =
      (p.follow? ⟨m, parts⟩).bind fun t => p.resolveIn limit t.module t.parts := by
  conv_lhs => unfold resolveIn
  rw [show m.classes.get? (join "." parts) = none from unknown, follow?]
  cases parts.head?.bind m.imports.get? with
  | none => simp [plain]
  | some target => cases h : p.owner? (split '.' target ++ parts.tail) <;> simp [h]

theorem mem_values_of_follow? (h : p.follow? s = some t) : t.module ∈ p.modules.values := by
  obtain ⟨head, tail, target, -, -, front, -, -, -, named, -⟩ := follow?_eq_some_iff.1 h
  obtain ⟨name, stored⟩ := get?_of_module? named
  exact List.mem_map.2 ⟨_, Entries.get?_eq_some_iff.1 stored, rfl⟩

/-- **A bound on the imports** cuts off the walks that have more of them, and nothing else. -/
theorem resolveIn_eq_some_iff (plain : ∀ m ∈ p.modules.values, m.starImports = []) {limit : Nat}
    (hm : m ∈ p.modules.values) : p.resolveIn limit m parts = some id ↔
      ∃ k ≤ limit, ∃ c, p.StopsAfter k ⟨m, parts⟩ c ∧ c.id = id := by
  induction limit generalizing m parts with
  | zero =>
    cases here : NamePlace.class? ⟨m, parts⟩ with
    | some c =>
      rw [resolveIn_of_class here]
      simp [stopsAfter_of_class here]
    | none =>
      rw [resolveIn_zero here]
      simp only [reduceCtorEq, false_iff]
      rintro ⟨k, hk, c, ⟨s, walk, there⟩, -⟩
      obtain rfl := Nat.le_zero.1 hk
      cases walk
      simp [here] at there
  | succ limit ih =>
    cases here : NamePlace.class? ⟨m, parts⟩ with
    | some c =>
      rw [resolveIn_of_class here]
      simp [stopsAfter_of_class here]
    | none =>
      rw [resolveIn_succ here (plain m hm)]
      cases next : p.follow? ⟨m, parts⟩ with
      | none => simp [not_stopsAfter here next]
      | some t =>
        rw [Option.bind_some, ih (mem_values_of_follow? next)]
        constructor
        · rintro ⟨k, hk, c, stops, hc⟩
          exact ⟨k + 1, by omega, c,
            (stopsAfter_of_follows (follows_iff.2 ⟨here, next⟩)).2 ⟨k, rfl, stops⟩, hc⟩
        · rintro ⟨k, hk, c, stops, hc⟩
          obtain ⟨n, rfl, rest⟩ := (stopsAfter_of_follows (follows_iff.2 ⟨here, next⟩)).1 stops
          exact ⟨n, by omega, c, rest, hc⟩

/-- The ways in which a walk goes. -/
theorem exists_stopsAfter_or (p : Program) (start : NamePlace) :
    (∃ k c, p.StopsAfter k start c) ∨ p.Stuck start ∨ p.Endless start := by
  by_cases onward : ∀ k s, After p.Follows k start s → ∃ t, p.Follows s t
  · refine .inr (.inr fun k => ?_)
    induction k with
    | zero => exact ⟨start, .here start⟩
    | succ k ih =>
      obtain ⟨s, walk⟩ := ih
      obtain ⟨t, last⟩ := onward k s walk
      exact ⟨t, walk.concat last⟩
  · obtain ⟨k, s, walk, last⟩ : ∃ k s, After p.Follows k start s ∧ ∀ t, ¬p.Follows s t := by
      simpa using onward
    cases here : s.class? with
    | some c => exact .inl ⟨k, c, s, walk, here⟩
    | none => exact .inr (.inl ⟨k, s, walk, here, last⟩)

/-- A walk that stops at a class does so once, is not stuck and does not go on for ever. -/
theorem StopsAfter.only {k : Nat} {c : ClassInfo} {start : NamePlace}
    (h : p.StopsAfter k start c) :
    (∀ n d, p.StopsAfter n start d → n = k ∧ d = c) ∧ ¬p.Stuck start ∧ ¬p.Endless start := by
  obtain ⟨s, walk, here⟩ := h
  have last (t : NamePlace) : ¬p.Follows s t := fun h => by simp [(follows_iff.1 h).1] at here
  -- Whatever else is on the walk comes before its end.
  have ends {n : Nat} {t : NamePlace} (walk' : After p.Follows n start t) : n ≤ k := by
    by_contra more
    obtain ⟨d, rfl⟩ : ∃ d, n = k + (d + 1) := ⟨n - k - 1, by omega⟩
    cases walk.of_le (fun h h' => h.unique h') walk' with
    | next first _ => exact last _ first
  have final {n : Nat} {t : NamePlace} (walk' : After p.Follows n start t)
      (last' : ∀ u, ¬p.Follows t u) : n = k ∧ t = s := by
    obtain ⟨d, rfl⟩ : ∃ d, k = n + d := ⟨k - n, by have := ends walk'; omega⟩
    cases walk'.of_le (fun h h' => h.unique h') walk with
    | here => exact ⟨rfl, rfl⟩
    | next first _ => exact absurd first (last' _)
  refine ⟨?_, ?_, ?_⟩
  · rintro n d ⟨t, walk', there⟩
    obtain ⟨rfl, rfl⟩ := final walk' fun u h => by simp [(follows_iff.1 h).1] at there
    exact ⟨rfl, Option.some.inj (there.symm.trans here)⟩
  · rintro ⟨n, t, walk', unknown, last'⟩
    obtain ⟨-, rfl⟩ := final walk' last'
    simp [here] at unknown
  · intro endless
    obtain ⟨t, walk'⟩ := endless (k + 1)
    have := ends walk'
    omega

theorem resolveIn_eq_none_iff (plain : ∀ m ∈ p.modules.values, m.starImports = []) {limit : Nat}
    (hm : m ∈ p.modules.values) : p.resolveIn limit m parts = none ↔
      p.Stuck ⟨m, parts⟩ ∨ p.Endless ⟨m, parts⟩ ∨
        ∃ k > limit, ∃ c, p.StopsAfter k ⟨m, parts⟩ c := by
  constructor
  · intro none
    rcases p.exists_stopsAfter_or ⟨m, parts⟩ with ⟨k, c, stops⟩ | stuck | endless
    · refine .inr (.inr ⟨k, ?_, c, stops⟩)
      by_contra few
      have found : p.resolveIn limit m parts = some c.id :=
        (resolveIn_eq_some_iff plain hm).2 ⟨k, Nat.le_of_not_lt few, c, stops, rfl⟩
      simp [none] at found
    · exact .inl stuck
    · exact .inr (.inl endless)
  · intro ways
    refine Option.eq_none_iff_forall_ne_some.2 fun id found => ?_
    obtain ⟨k, hk, c, stops, -⟩ := (resolveIn_eq_some_iff plain hm).1 found
    obtain ⟨once, notStuck, notEndless⟩ := stops.only
    rcases ways with stuck | endless | ⟨n, hn, d, late⟩
    · exact notStuck stuck
    · exact notEndless endless
    · have := (once n d late).1
      omega

/-! ## Imports of all names -/

/-- What is found is a class of the module, or is found behind one import. -/
theorem exists_imports_of_resolveIn {limit : Nat} (h : p.resolveIn limit m parts = some id) :
    (∃ c, m.classes.get? (join "." parts) = some c ∧ c.id = id) ∨
      ∃ fewer next rest, limit = fewer + 1 ∧ p.Imports m next ∧
        p.resolveIn fewer next rest = some id := by
  unfold resolveIn at h
  split at h
  · next c hc => exact .inl ⟨c, hc, Option.some.inj h⟩
  · refine .inr ?_
    cases limit with
    | zero => cases h
    | succ limit =>
      cases imported : parts.head?.bind m.imports.get? with
      | some target =>
        obtain ⟨head, -, stands⟩ := Option.bind_eq_some_iff.1 imported
        rw [imported] at h
        cases found : p.owner? (split '.' target ++ parts.tail) with
        | none => simp [found] at h
        | some owner =>
          simp only [found] at h
          exact ⟨limit, _, _, rfl, .name stands (owner?_eq_some_iff.1 found), h⟩
      | none =>
        rw [imported] at h
        obtain ⟨star, hs, followed⟩ := List.exists_of_findSome?_eq_some h
        cases named : p.module? star with
        | none => simp [named] at followed
        | some next =>
          simp only [named] at followed
          split at followed
          · cases followed
          · exact ⟨limit, _, _, rfl, .all hs named, followed⟩

/-- A class that is found lies in a module to which no more imports lead than are allowed. -/
theorem leadsTo_of_resolveIn {limit : Nat} (h : p.resolveIn limit m parts = some id) :
    ∃ k ≤ limit, ∃ n q c, After p.Imports k m n ∧ n.classes.get? q = some c ∧ c.id = id := by
  induction limit generalizing m parts with
  | zero =>
    rcases exists_imports_of_resolveIn h with ⟨c, hc, rfl⟩ | ⟨fewer, next, rest, less, -⟩
    · exact ⟨0, Nat.le_refl 0, m, _, c, .here m, hc, rfl⟩
    · omega
  | succ limit ih =>
    rcases exists_imports_of_resolveIn h with
      ⟨c, hc, rfl⟩ | ⟨fewer, next, rest, less, first, behind⟩
    · exact ⟨0, by omega, m, _, c, .here m, hc, rfl⟩
    · obtain rfl : fewer = limit := by omega
      obtain ⟨k, hk, n, q, c, walk, there⟩ := ih behind
      exact ⟨k + 1, by omega, n, q, c, .next first walk, there⟩

theorem stored_of_imports {k : Nat} {n : SourceModule} (hm : m ∈ p.modules.values)
    (h : After p.Imports k m n) : n ∈ p.modules.values := by
  induction h with
  | here => exact hm
  | next first _ ih =>
    refine ih ?_
    obtain ⟨name, stored⟩ : ∃ name, p.modules.get? name = some _ := by
      cases first with
      | name _ leads =>
        obtain ⟨_, -, -, -, named, -⟩ := leads
        exact get?_of_module? named
      | all _ named => exact get?_of_module? named
    exact List.mem_map.2 ⟨_, Entries.get?_eq_some_iff.1 stored, rfl⟩

end walk

/-! ## Dotted names -/

/-- A text stands for the class of what it quotes, and every other expression for the class of its
dotted name. -/
theorem resolveExpr?_def (p : Program) (m : SourceModule) (e : Expr) :
    p.resolveExpr? m e =
      match e with
      | .text s => (Expr.quoted? s).bind (p.resolveExpr? m)
      | e => e.dotted?.bind (p.resolveName? m) := by
  cases e with
  | text s => rw [resolveExpr?.eq_1]; split <;> simp [*]
  | _ => rw [resolveExpr?.eq_2 p m _ (by simp)]

theorem resolveExpr?_of_dotted (p : Program) (m : SourceModule) {e : Expr} {dotted : String}
    (h : e.dotted? = some dotted) : p.resolveExpr? m e = p.resolveIn 8 m (split '.' dotted) := by
  rw [resolveExpr?_def]
  cases e with
  | text s => cases h
  | _ =>
    simp only [h]
    rfl

/-- **A dotted name stands for the class at the end of its walk**, if all imports are imports of
single names: it does so exactly if there are at most eight imports on the walk. It stands for none
if the walk is stuck, longer or goes on for ever. With imports of all names of modules it stands for
a class of a module to which at most eight imports lead, if it stands for any. -/
theorem resolveExpr?_walk {p : Program} (hp : p.Indexed) {m : SourceModule}
    (hm : m ∈ p.modules.values) {e : Expr} {dotted : String} (he : e.dotted? = some dotted) :
    ((∀ m ∈ p.modules.values, m.starImports = []) →
      (∀ id, p.resolveExpr? m e = some id ↔
        ∃ k ≤ 8, ∃ c, p.StopsAfter k ⟨m, split '.' dotted⟩ c ∧ c.id = id) ∧
      (p.resolveExpr? m e = none ↔ p.Stuck ⟨m, split '.' dotted⟩ ∨
        p.Endless ⟨m, split '.' dotted⟩ ∨ ∃ k > 8, ∃ c, p.StopsAfter k ⟨m, split '.' dotted⟩ c)) ∧
    ∀ id, p.resolveExpr? m e = some id →
      ∃ k ≤ 8, ∃ n, After p.Imports k m n ∧ p.modules.get? id.module = some n ∧
        ∃ c, n.classes.get? id.qualname = some c ∧ c.id = id := by
  rw [resolveExpr?_of_dotted p m he]
  have tables := hp.consistent
  refine ⟨fun plain => ⟨fun id => ?_, ?_⟩, fun id found => ?_⟩
  · exact resolveIn_eq_some_iff plain hm
  · exact resolveIn_eq_none_iff plain hm
  · obtain ⟨k, hk, n, q, c, walk, hc, rfl⟩ := leadsTo_of_resolveIn found
    have stored := stored_of_imports hm walk
    have known : c.id = ⟨n.name, q⟩ :=
      tables.class_id n stored _ (Entries.get?_eq_some_iff.1 hc)
    refine ⟨k, hk, n, walk, ?_, c, ?_, rfl⟩
    · rw [known]
      exact tables.get?_iff.2 ⟨stored, rfl⟩
    · rw [known]
      exact hc

/-! ## Two modules that import one another -/

namespace Roundabout

def appPath : Path := ⟨["project", "app.py"]⟩

def libPath : Path := ⟨["project", "lib.py"]⟩

/-- The module imports a class, and a name that the other module imports from it. -/
def app : SourceModule :=
  .ofBody "app" false appPath
    [.importing (.members (some "lib") [⟨"Kit", none⟩, ⟨"loop", none⟩] 0)]

def lib : SourceModule :=
  .ofBody "lib" false libPath
    [.importing (.members (some "app") [⟨"loop", none⟩] 0), .classDef ⟨"Kit", 4, [], []⟩]

def program : Program := (({} : Program).store default app).store default lib

theorem indexed : program.Indexed :=
  .file default libPath _ rfl (.file default appPath _ rfl (.new none))

theorem plain : ∀ m ∈ program.modules.values, m.starImports = [] := by decide +kernel

theorem app_mem : app ∈ program.modules.values := List.mem_cons_self

end Roundabout

/-- A class is one import away, and the name that is imported in a circle is none. -/
theorem resolveExpr?_walk_roundabout :
    (∃ k ≤ 8, ∃ c, Roundabout.program.StopsAfter k ⟨Roundabout.app, split '.' "Kit"⟩ c ∧
      c.id = ⟨"lib", "Kit"⟩) ∧
    (Roundabout.program.Stuck ⟨Roundabout.app, split '.' "loop"⟩ ∨
      Roundabout.program.Endless ⟨Roundabout.app, split '.' "loop"⟩ ∨
      ∃ k > 8, ∃ c,
        Roundabout.program.StopsAfter k ⟨Roundabout.app, split '.' "loop"⟩ c) ∧
    ∃ k ≤ 8, ∃ n, After Roundabout.program.Imports k Roundabout.app n ∧
      Roundabout.program.modules.get? "lib" = some n ∧
      ∃ c, n.classes.get? "Kit" = some c ∧ c.id = ⟨"lib", "Kit"⟩ := by
  open Roundabout in
  have kit := resolveExpr?_walk indexed app_mem (e := .name "Kit") rfl
  have loop := resolveExpr?_walk indexed app_mem (e := .name "loop") rfl
  have found : program.resolveExpr? app (.name "Kit") = some ⟨"lib", "Kit"⟩ := by
    rw [resolveExpr?_of_dotted program app rfl]
    decide +kernel
  have none : program.resolveExpr? app (.name "loop") = none := by
    rw [resolveExpr?_of_dotted program app rfl]
    decide +kernel
  exact ⟨((kit.1 plain).1 _).1 found, (loop.1 plain).2.1 none, kit.2 _ found⟩

end Program

end ArchModel
