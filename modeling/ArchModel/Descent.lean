/-!
# Steps that come to an end

A machine takes steps while a row of numbers that belongs to its state is not empty. It comes to an
end if each step puts smaller numbers, however many, in the place of the first number of the row.

* `Descends` says what a step does to the row; it is well-founded (`descends_wf`).
* `runToEnd` takes all steps. `runToEnd_induction` says what holds at the end, `runToEnd_simulation`
  how two machines that step alike end.
-/

namespace ArchModel

/-- The first number of a row gives way to smaller ones. -/
inductive Descends : List Nat → List Nat → Prop
  | replace {n : Nat} {smaller : List Nat} (rest : List Nat) (h : ∀ m ∈ smaller, m < n) :
    Descends (smaller ++ rest) (n :: rest)

namespace Descends

theorem drop (n : Nat) (rest : List Nat) : Descends rest (n :: rest) :=
  @replace n [] rest (by simp)

theorem acc_append {smaller rest : List Nat}
    (h : ∀ m ∈ smaller, ∀ rest, Acc Descends rest → Acc Descends (m :: rest))
    (hr : Acc Descends rest) : Acc Descends (smaller ++ rest) := by
  induction smaller with
  | nil => exact hr
  | cons m ms ih =>
    have below : Acc Descends (ms ++ rest) := ih fun k hk => h k (by simp [hk])
    exact h m (by simp) _ below

theorem acc_cons (n : Nat) : ∀ rest, Acc Descends rest → Acc Descends (n :: rest) := by
  induction n using Nat.strongRecOn with
  | ind n ih =>
    intro rest hr
    refine ⟨_, fun row h => ?_⟩
    cases h with
    | replace _ h => exact acc_append (fun m hm => ih m (h m hm)) hr

end Descends

theorem descends_wf : WellFounded Descends := by
  refine ⟨fun row => ?_⟩
  induction row with
  | nil => exact ⟨_, fun _ h => nomatch h⟩
  | cons n rest ih => exact Descends.acc_cons n rest ih

/-- A row of numbers, ordered by `Descends`. -/
structure DescendingRow where
  row : List Nat

instance : WellFoundedRelation DescendingRow where
  rel a b := Descends a.row b.row
  wf := InvImage.wf DescendingRow.row descends_wf

section runToEnd

variable {σ : Type u} {τ : Type v} {left : σ → List Nat} {step : σ → σ}

/-- Take steps until nothing is left. -/
def runToEnd (h : ∀ w, left w ≠ [] → Descends (left (step w)) (left w)) (w : σ) : σ :=
  if _h : left w = [] then w else runToEnd h (step w)
termination_by DescendingRow.mk (left w)
decreasing_by exact h w _h

variable (h : ∀ w, left w ≠ [] → Descends (left (step w)) (left w))

theorem runToEnd_of_left {w : σ} (hw : left w ≠ []) : runToEnd h w = runToEnd h (step w) := by
  rw [runToEnd, dif_neg hw]

theorem runToEnd_of_done {w : σ} (hw : left w = []) : runToEnd h w = w := by
  rw [runToEnd, dif_pos hw]

/-- What each step preserves holds at the end, where nothing is left. -/
theorem runToEnd_induction {P : σ → Prop} (hP : ∀ w, left w ≠ [] → P w → P (step w)) {w : σ}
    (hw : P w) : P (runToEnd h w) ∧ left (runToEnd h w) = [] := by
  fun_induction runToEnd h w with
  | case1 w done => exact ⟨hw, done⟩
  | case2 w go ih => exact ih (hP w go hw)

/-- Two machines that step alike end alike. -/
theorem runToEnd_simulation {left' : τ → List Nat} {step' : τ → τ}
    (h' : ∀ v, left' v ≠ [] → Descends (left' (step' v)) (left' v)) {R : σ → τ → Prop}
    (same : ∀ w v, R w v → left w = left' v)
    (hR : ∀ w v, left w ≠ [] → R w v → R (step w) (step' v)) {w : σ} {v : τ} (hw : R w v) :
    R (runToEnd h w) (runToEnd h' v) := by
  fun_induction runToEnd h w generalizing v with
  | case1 w done =>
    rw [runToEnd_of_done h' (same w v hw ▸ done)]
    exact hw
  | case2 w go ih =>
    rw [runToEnd_of_left h' (same w v hw ▸ go)]
    exact ih (hR w v go hw)

end runToEnd

end ArchModel
