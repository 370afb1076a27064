import ArchModel.Source.Tree

/-!
# Where calls stand in a function

* `Stmt.Within` holds of the statements of a body and of what stands in them, nested classes left
  out. `FunctionOf.HasPart` holds of the expressions in these statements and of their parts, and
  says what each is to the expression around it.
* **`FunctionOf.mem_sortedCalls_iff`**: the calls of a function are the parts of it that are calls.
-/

namespace ArchModel.Source

/-! ## Statements -/

namespace Stmt

/-- The expressions of a statement itself. A class has none that count. -/
def exprs : Stmt → List Expr
  | .function f => f.params.exprs ++ f.decorators ++ f.returns.toList
  | .assign a _ => a.exprs
  | .expr value _ => [value]
  | .conditional test _ _ => [test]
  | .simple parts => parts
  | .compound parts _ => parts
  | .classDef _ => []
  | .importing _ => []
  | .attempt _ _ => []

/-- The statements that stand directly in a statement. The inside of a class does not count. -/
def inner : Stmt → List Stmt
  | .function f => f.body
  | .conditional _ body orelse => body ++ orelse
  | .attempt body rest => body ++ rest
  | .compound _ body => body
  | .classDef _ => []
  | .assign _ _ => []
  | .importing _ => []
  | .expr _ _ => []
  | .simple _ => []

/-- A statement stands in a body or in another statement of it. -/
inductive Within (body : List Stmt) : Stmt → Prop
  | direct {s : Stmt} (hs : s ∈ body) : Within body s
  | inner {s outer : Stmt} (within : Within body outer) (hs : s ∈ outer.inner) : Within body s

end Stmt

/-! ## Expressions -/

/-- The parts of an expression that is neither a call nor a member of an object. -/
def Expr.parts : Expr → List Expr
  | .subscript value index => [value, index]
  | .union left right => [left, right]
  | .tuple items => items
  | .list items => items
  | .starred value => [value]
  | .other parts => parts
  | .call _ _ _ => []
  | .member _ _ => []
  | .name _ => []
  | .text _ => []
  | .literal => []

/-- An expression stands in a function, outside of nested classes, and `role` is what it is to the
expression around it. -/
inductive FunctionOf.HasPart (f : Function) : CallRole → Expr → Prop
  /-- It is an expression of a statement. -/
  | statement {s : Stmt} {e : Expr} (within : Stmt.Within f.body s) (he : e ∈ s.exprs) :
    HasPart f .plain e
  /-- It is called. -/
  | called {role : CallRole} {func : Expr} {args : List Expr} {place : Position}
    (call : HasPart f role (.call func args place)) : HasPart f .called func
  /-- It is given to a call. -/
  | argument {role : CallRole} {func : Expr} {args : List Expr} {place : Position} {e : Expr}
    (call : HasPart f role (.call func args place)) (he : e ∈ args) : HasPart f .plain e
  /-- A method of it is called. -/
  | receiver {value : Expr} {attr : String} (method : HasPart f .called (.member value attr)) :
    HasPart f .receiver value
  /-- A member of it is used otherwise. -/
  | value {role : CallRole} {value : Expr} {attr : String}
    (member : HasPart f role (.member value attr)) (other : role ≠ .called) : HasPart f .plain value
  /-- It is a part of anything else. -/
  | part {role : CallRole} {whole e : Expr} (has : HasPart f role whole) (he : e ∈ whole.parts) :
    HasPart f .plain e

/-! ## Calls -/

theorem Expr.mem_callsAll_iff {es : List Expr} {c : Call} :
    c ∈ Expr.callsAll es ↔ ∃ e ∈ es, c ∈ e.calls .plain := by
  induction es with
  | nil => simp [Expr.callsAll]
  | cons e es ih => simp [Expr.callsAll, ih]

theorem Stmt.mem_callsAll_iff {ss : List Stmt} {c : Call} :
    c ∈ Stmt.callsAll ss ↔ ∃ s ∈ ss, c ∈ s.calls := by
  induction ss with
  | nil => simp [Stmt.callsAll]
  | cons s ss ih => simp [Stmt.callsAll, ih]

/-- The calls of an expression that is neither a call nor a member of an object are those of its
parts. -/
theorem Expr.calls_eq_callsAll_parts (role : CallRole) {e : Expr}
    (call : ∀ func args place, e ≠ .call func args place)
    (member : ∀ value attr, e ≠ .member value attr) :
    e.calls role = Expr.callsAll e.parts := by
  cases e with
  | call func args place => exact absurd rfl (call func args place)
  | member value attr => exact absurd rfl (member value attr)
  | _ => simp [Expr.calls, Expr.parts, Expr.callsAll]

theorem Expr.sizeOf_lt_of_mem_parts {e whole : Expr} (he : e ∈ whole.parts) :
    sizeOf e < sizeOf whole := by
  cases whole <;> simp only [Expr.parts, List.mem_cons, List.not_mem_nil, or_false] at he
  case subscript value index =>
    rw [Expr.subscript.sizeOf_spec]
    rcases he with rfl | rfl
    all_goals omega
  case union left right =>
    rw [Expr.union.sizeOf_spec]
    rcases he with rfl | rfl
    all_goals omega
  case starred value =>
    rw [Expr.starred.sizeOf_spec, he]
    omega
  all_goals
    have smaller := List.sizeOf_lt_of_mem he
    simp
    omega

theorem Stmt.sizeOf_lt_of_mem_inner {s outer : Stmt} (hs : s ∈ outer.inner) :
    sizeOf s < sizeOf outer := by
  cases outer <;> simp only [Stmt.inner, List.mem_append, List.not_mem_nil] at hs
  case function f =>
    have smaller := List.sizeOf_lt_of_mem hs
    cases f
    simp at smaller ⊢
    omega
  case compound parts body =>
    have smaller := List.sizeOf_lt_of_mem hs
    rw [Stmt.compound.sizeOf_spec]
    omega
  -- Two bodies: a statement of either is smaller than both together.
  all_goals
    rcases hs with hs | hs
    all_goals
      have smaller := List.sizeOf_lt_of_mem hs
      simp
      omega

/-- The calls of a statement are those of its expressions and those of the statements in it. -/
theorem Stmt.mem_calls_iff {s : Stmt} {c : Call} :
    c ∈ s.calls ↔ (∃ e ∈ s.exprs, c ∈ e.calls .plain) ∨ ∃ t ∈ s.inner, c ∈ t.calls := by
  rw [← Expr.mem_callsAll_iff, ← Stmt.mem_callsAll_iff]
  cases s with
  | function f =>
    obtain ⟨name, isAsync, line, params, returns, decorators, body⟩ := f
    simp only [Stmt.calls, FunctionOf.calls, Stmt.exprs, Stmt.inner, List.mem_append,
      Expr.mem_callsAll_iff, or_and_right, exists_or]
    grind
  | _ =>
    simp [Stmt.calls, Stmt.exprs, Stmt.inner, Expr.callsAll, Stmt.mem_callsAll_iff, or_and_right,
      exists_or]

namespace FunctionOf

variable {f : Function} {c : Call}

/-- The calls of what stands in a function are calls of the function. -/
theorem calls_subset_of_within {body : List Stmt} {s : Stmt} (h : Stmt.Within body s) :
    s.calls ⊆ Stmt.callsAll body := by
  induction h with
  | direct hs => exact fun c hc => Stmt.mem_callsAll_iff.2 ⟨_, hs, hc⟩
  | inner _ hs ih => exact fun c hc => ih (Stmt.mem_calls_iff.2 (.inr ⟨_, hs, hc⟩))

theorem HasPart.calls_subset {role : CallRole} {e : Expr} (h : f.HasPart role e) :
    e.calls role ⊆ Stmt.callsAll f.body := by
  induction h with
  | statement within he =>
    exact fun c hc => calls_subset_of_within within (Stmt.mem_calls_iff.2 (.inl ⟨_, he, hc⟩))
  | called _ ih =>
    refine fun c hc => ih ?_
    rw [Expr.calls]
    exact List.mem_cons_of_mem _ (List.mem_append_left _ hc)
  | argument _ he ih =>
    refine fun c hc => ih ?_
    rw [Expr.calls]
    exact List.mem_cons_of_mem _ (List.mem_append_right _ (Expr.mem_callsAll_iff.2 ⟨_, he, hc⟩))
  | receiver _ ih =>
    exact fun c hc => ih (by rwa [Expr.calls, if_pos rfl])
  | value _ other ih =>
    exact fun c hc => ih (by rwa [Expr.calls, if_neg other])
  | @part role whole e _ he ih =>
    refine fun c hc => ih ?_
    rw [Expr.calls_eq_callsAll_parts role]
    · exact Expr.mem_callsAll_iff.2 ⟨_, he, hc⟩
    · rintro func args place rfl
      cases he
    · rintro value attr rfl
      cases he

/-- The calls of a part of a function are parts of the function. -/
theorem HasPart.exists_of_mem_calls {role : CallRole} {e : Expr} (h : f.HasPart role e)
    (hc : c ∈ e.calls role) : ∃ role args, f.HasPart role (.call c.func args c.place) ∧
      (c.isReceiver = true ↔ role = .receiver) := by
  induction size : sizeOf e using Nat.strongRecOn generalizing role e with
  | ind n ih =>
  subst size
  cases e with
  | call func args place =>
    rw [Expr.calls, List.mem_cons, List.mem_append, Expr.mem_callsAll_iff] at hc
    rcases hc with rfl | hc | ⟨e, he, hc⟩
    · exact ⟨role, args, h, decide_eq_true_iff⟩
    · exact ih _ (by simp; omega) h.called hc rfl
    · have smaller : sizeOf e < sizeOf args := List.sizeOf_lt_of_mem he
      exact ih _ (by simp; omega) (h.argument he) hc rfl
  | member value attr =>
    rw [Expr.calls] at hc
    split at hc
    · next is =>
      subst is
      exact ih _ (by simp; omega) h.receiver hc rfl
    · next other => exact ih _ (by simp; omega) (h.value other) hc rfl
  | _ =>
    rw [Expr.calls_eq_callsAll_parts role (by simp) (by simp), Expr.mem_callsAll_iff] at hc
    obtain ⟨e, he, hc⟩ := hc
    exact ih _ (Expr.sizeOf_lt_of_mem_parts he) (h.part he) hc rfl

/-- The calls of a statement of a function are parts of the function. -/
theorem exists_of_within {s : Stmt} (h : Stmt.Within f.body s) (hc : c ∈ s.calls) :
    ∃ role args, f.HasPart role (.call c.func args c.place) ∧
      (c.isReceiver = true ↔ role = .receiver) := by
  induction size : sizeOf s using Nat.strongRecOn generalizing s with
  | ind n ih =>
  subst size
  rcases Stmt.mem_calls_iff.1 hc with ⟨e, he, hc⟩ | ⟨t, ht, hc⟩
  · exact (HasPart.statement h he).exists_of_mem_calls hc
  · exact ih _ (Stmt.sizeOf_lt_of_mem_inner ht) (h.inner ht) hc rfl

/-- **The calls of a function** are the parts of it that are calls, wherever they stand outside of
nested classes. A call is a receiver where a method of its result is called. -/
theorem mem_sortedCalls_iff : c ∈ f.sortedCalls ↔
    ∃ role args, f.HasPart role (.call c.func args c.place) ∧
      (c.isReceiver = true ↔ role = .receiver) := by
  rw [sortedCalls, List.mem_mergeSort]
  constructor
  · intro hc
    obtain ⟨s, hs, hc⟩ := Stmt.mem_callsAll_iff.1 hc
    exact exists_of_within (.direct hs) hc
  · rintro ⟨role, args, h, receiver⟩
    have same : c = ⟨c.func, c.place, role = .receiver⟩ := by
      cases c
      exact congrArg _ (Bool.eq_iff_iff.2 (receiver.trans decide_eq_true_iff.symm))
    refine h.calls_subset ?_
    rw [Expr.calls, ← same]
    exact List.mem_cons_self

end FunctionOf

end ArchModel.Source
