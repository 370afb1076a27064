/-!
# Computations that may fail

* `bind_eq_ok`: what is computed in two parts succeeds if both parts do.
* `foldlM_append_eq_ok`, `foldlM_cons_eq_ok`: so does a run over two lists, one after the other.
* `eq_ok_of_mapError`: another form of the faults changes no success.
* `foldlM_invariant`: what each step of a run keeps holds in the end.
* `Meets`: what is known of the end of a computation, be it a fault or a result. It is put together
  from what is known of the parts (`Meets.bind`, `meets_mapM`).
-/

namespace ArchModel

variable {ε : Type u} {α β : Type v}

theorem bind_eq_ok {x : Except ε α} {f : α → Except ε β} {b : β} :
    x >>= f = .ok b ↔ ∃ a, x = .ok a ∧ f a = .ok b := by
  cases x <;> simp [bind, Except.bind]

theorem eq_ok_of_mapError {ε' : Type u} {x : Except ε α} {f : ε → ε'} {a : α}
    (h : x.mapError f = .ok a) : x = .ok a := by
  cases x with
  | error e => cases h
  | ok b => exact congrArg Except.ok (Except.ok.inj h)

/-- A run over two lists is one over each. -/
theorem foldlM_append_eq_ok {step : β → α → Except ε β} {as as' : List α} {b b' : β} :
    (as ++ as').foldlM step b = .ok b' ↔
      ∃ c, as.foldlM step b = .ok c ∧ as'.foldlM step c = .ok b' := by
  rw [List.foldlM_append, bind_eq_ok]

theorem foldlM_cons_eq_ok {step : β → α → Except ε β} {a : α} {as : List α} {b b' : β} :
    (a :: as).foldlM step b = .ok b' ↔ ∃ c, step b a = .ok c ∧ as.foldlM step c = .ok b' := by
  rw [List.foldlM_cons, bind_eq_ok]

/-- What each step of a run keeps holds in the end, if the run succeeds. -/
theorem foldlM_invariant {step : β → α → Except ε β} {P : β → Prop} {as : List α} {b b' : β}
    (keep : ∀ b, ∀ a ∈ as, ∀ b', P b → step b a = .ok b' → P b') (start : P b)
    (run : as.foldlM step b = .ok b') : P b' := by
  induction as generalizing b with
  | nil =>
    obtain rfl := Except.ok.inj run
    exact start
  | cons a as ih =>
    obtain ⟨first, rest⟩ : (∀ b b', P b → step b a = .ok b' → P b') ∧
        ∀ b, ∀ a ∈ as, ∀ b', P b → step b a = .ok b' → P b' :=
      ⟨fun b => keep b a List.mem_cons_self, fun b a ha => keep b a (List.mem_cons_of_mem _ ha)⟩
    rw [List.foldlM_cons] at run
    obtain ⟨b₁, one, run⟩ := bind_eq_ok.1 run
    exact ih rest (first b b₁ start one) run

/-- A computation ends in a fault that satisfies `P` or in a result that satisfies `Q`. -/
def Meets (P : ε → Prop) (Q : α → Prop) : Except ε α → Prop
  | .error e => P e
  | .ok a => Q a

section Meets

variable {P : ε → Prop} {Q : β → Prop} {R : α → Prop} {x : Except ε α}

theorem Meets.fault (h : Meets P R x) {e : ε} (run : x = .error e) : P e := by
  rw [run] at h
  exact h

theorem Meets.result (h : Meets P R x) {a : α} (run : x = .ok a) : R a := by
  rw [run] at h
  exact h

theorem Meets.mono (h : Meets P R x) {R' : α → Prop} (weaken : ∀ a, R a → R' a) :
    Meets P R' x := by
  cases x with
  | error e => exact h
  | ok a => exact weaken a h

theorem Meets.bind {f : α → Except ε β} (h : Meets P R x) (next : ∀ a, R a → Meets P Q (f a)) :
    Meets P Q (x >>= f) := by
  cases x with
  | error e => exact h
  | ok a => exact next a h

theorem Meets.mapError {ε' : Type u} {P' : ε' → Prop} {f : ε → ε'} (h : Meets P R x)
    (fault : ∀ e, P e → P' (f e)) : Meets P' R (x.mapError f) := by
  cases x with
  | error e => exact fault e h
  | ok a => exact h

theorem Meets.map {f : α → β} (h : Meets P R x) (result : ∀ a, R a → Q (f a)) :
    Meets P Q (x.map f) := by
  cases x with
  | error e => exact h
  | ok a => exact result a h

/-- What holds of the members for which a step succeeds holds of all if all steps do. -/
theorem meets_mapM {f : α → Except ε β} {as : List α}
    (each : ∀ a ∈ as, Meets P (fun _ => R a) (f a)) :
    Meets P (fun _ => ∀ a ∈ as, R a) (as.mapM f) := by
  induction as with
  | nil => exact fun a ha => absurd ha List.not_mem_nil
  | cons a as ih =>
    obtain ⟨first, rest⟩ := List.forall_mem_cons.1 each
    rw [List.mapM_cons]
    exact first.bind fun _ one => (ih rest).bind fun _ more => List.forall_mem_cons.2 ⟨one, more⟩

theorem meets_filterMapM {f : α → Except ε (Option β)} {as : List α}
    (each : ∀ a ∈ as, Meets P (fun _ => True) (f a)) :
    Meets P (fun _ => True) (as.filterMapM f) := by
  induction as with
  | nil => trivial
  | cons a as ih =>
    obtain ⟨first, rest⟩ := List.forall_mem_cons.1 each
    rw [List.filterMapM_cons]
    refine first.bind fun b _ => ?_
    cases b with
    | none => exact ih rest
    | some b => exact (ih rest).bind fun _ _ => trivial

end Meets

end ArchModel
