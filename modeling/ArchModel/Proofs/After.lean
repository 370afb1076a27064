/-!
# Numbers of steps

`After step n a b` says that `n` steps lead from `a` to `b`. Where a place may have several
successors, `After` tells how far apart places are at most; `after_succ_iff` takes the last step
apart.
-/

namespace ArchModel

/-- What a number of steps leads to. -/
inductive After {α : Type} (step : α → α → Prop) : Nat → α → α → Prop
  | here (a : α) : After step 0 a a
  | next {n : Nat} {a b c : α} (first : step a b) (rest : After step n b c) : After step (n + 1) a c

namespace After

variable {α : Type} {step : α → α → Prop} {n k : Nat} {a b c : α}

theorem concat (h : After step n a b) (last : step b c) : After step (n + 1) a c := by
  induction h with
  | here a => exact .next last (.here c)
  | next first _ ih => exact .next first (ih last)

/-- Where no place has two successors, the fewer steps lie on the way of the more. -/
theorem of_le (unique : ∀ {a b c}, step a b → step a c → b = c) (hb : After step n a b)
    (hc : After step (n + k) a c) : After step k b c := by
  induction hb with
  | here a => simpa using hc
  | @next n a b' b first _ ih =>
    rw [Nat.add_right_comm] at hc
    cases hc with
    | next first' rest =>
      obtain rfl := unique first first'
      exact ih rest

end After

theorem after_zero_iff {α : Type} {step : α → α → Prop} {a b : α} : After step 0 a b ↔ a = b :=
  ⟨fun h => by cases h; rfl, fun h => h ▸ .here a⟩

/-- The last of some steps. -/
theorem after_succ_iff {α : Type} {step : α → α → Prop} {n : Nat} {a c : α} :
    After step (n + 1) a c ↔ ∃ b, After step n a b ∧ step b c := by
  constructor
  · intro h
    induction n generalizing a with
    | zero =>
      cases h with
      | next first rest =>
        cases rest
        exact ⟨a, .here a, first⟩
    | succ n ih =>
      cases h with
      | next first rest =>
        obtain ⟨b, walk, last⟩ := ih rest
        exact ⟨b, .next first walk, last⟩
  · rintro ⟨b, walk, last⟩
    exact walk.concat last

end ArchModel
