import ArchModel.Proofs.After
import Mathlib.Data.Nat.Find

/-!
# Searching breadth first

A search starts from one place. It looks at the places that wait, one after the other, and puts
those that a place leads to behind the others, until it finds something or nothing waits. A place
that was passed is not looked at again, so the search comes to an end also where steps lead in a
circle.

* `BreadthFirst.Searches` is the search without a bound on its steps, and `firstFrom?` the one with
  a bound. `searches_firstFrom?`: a bound that the number of steps from all places justifies is
  never reached.
* `BreadthFirst.row` lists the places that are some number of steps away and no fewer, in the order
  in which they are met (`mem_row_iff`); `First` holds of the first place of a kind.
* `Searches.eq_none_iff` and `Searches.eq_some_iff` say what a search finds: nothing if there is
  nothing to be found anywhere, else what there is at the first place that has anything.
-/

namespace ArchModel.BreadthFirst

variable {α β : Type} (next : α → List α) (look : α → Option β)

/-- A step leads from one place to another. -/
def Leads (a b : α) : Prop := b ∈ next a

/-! ## The search -/

/-- The search: `seen` were passed before, and the places of the second list wait. -/
inductive Searches : List α → List α → Option β → Prop
  | done (seen : List α) : Searches seen [] none
  | again {seen waiting : List α} {a : α} {r : Option β} (known : a ∈ seen)
      (rest : Searches seen waiting r) : Searches seen (a :: waiting) r
  | found {seen waiting : List α} {a : α} {b : β} (new : a ∉ seen) (here : look a = some b) :
      Searches seen (a :: waiting) (some b)
  | onward {seen waiting : List α} {a : α} {r : Option β} (new : a ∉ seen) (nothing : look a = none)
      (rest : Searches (a :: seen) (waiting ++ next a) r) : Searches seen (a :: waiting) r

/-- What a search finds is found somewhere. -/
theorem Searches.exists_of_some {next : α → List α} {look : α → Option β} {seen waiting : List α}
    {b : β} (h : Searches next look seen waiting (some b)) :
    ∃ a ∈ waiting, ∃ k d, After (Leads next) k a d ∧ look d = some b := by
  generalize hr : some b = r at h
  induction h with
  | done => cases hr
  | again _ _ ih =>
    obtain ⟨a, ha, found⟩ := ih hr
    exact ⟨a, List.mem_cons_of_mem _ ha, found⟩
  | @found _ _ a _ _ here => exact ⟨a, List.mem_cons_self, 0, a, .here a, hr ▸ here⟩
  | @onward _ _ a _ _ _ _ ih =>
    obtain ⟨c, hc, k, d, walk, found⟩ := ih hr
    rcases List.mem_append.1 hc with hc | hc
    · exact ⟨c, List.mem_cons_of_mem _ hc, k, d, walk, found⟩
    · exact ⟨a, List.mem_cons_self, k + 1, d, .next hc walk, found⟩

variable [DecidableEq α]

/-- The search with a bound on its steps. -/
def firstFrom? : Nat → List α → List α → Option β
  | 0, _, _ => none
  | _ + 1, _, [] => none
  | bound + 1, seen, a :: waiting =>
    if a ∈ seen then firstFrom? bound seen waiting
    else match look a with
      | some b => some b
      | none => firstFrom? bound (a :: seen) (waiting ++ next a)

/-- The number of steps from the places of a list that were not passed. -/
def stepsLeft (places seen : List α) : Nat :=
  (places.flatMap fun a => if a ∈ seen then [] else next a).length

variable {next look}

theorem stepsLeft_append (before after seen : List α) :
    stepsLeft next (before ++ after) seen =
      stepsLeft next before seen + stepsLeft next after seen := by
  simp [stepsLeft]

theorem stepsLeft_cons_le (places seen : List α) (a : α) :
    stepsLeft next places (a :: seen) ≤ stepsLeft next places seen := by
  induction places with
  | nil => exact Nat.le_refl _
  | cons b places ih =>
    have here : (if b ∈ a :: seen then [] else next b).length ≤
        (if b ∈ seen then [] else next b).length := by
      by_cases hb : b ∈ seen
      · simp [hb]
      · by_cases same : b = a <;> simp [hb, same]
    simp only [stepsLeft, List.flatMap_cons, List.length_append] at ih ⊢
    omega

/-- Passing a place takes its steps away. -/
theorem stepsLeft_cons {places seen : List α} (closed : ∀ a, next a ≠ [] → a ∈ places) {a : α}
    (new : a ∉ seen) :
    stepsLeft next places (a :: seen) + (next a).length ≤ stepsLeft next places seen := by
  by_cases last : next a = []
  · simpa [last] using stepsLeft_cons_le places seen a
  · obtain ⟨before, after, rfl⟩ := List.append_of_mem (closed a last)
    have there : stepsLeft next (a :: after) (a :: seen) = stepsLeft next after (a :: seen) := by
      simp [stepsLeft]
    have here : stepsLeft next (a :: after) seen = (next a).length + stepsLeft next after seen := by
      simp [stepsLeft, new]
    have hb : stepsLeft next before (a :: seen) ≤ stepsLeft next before seen :=
      stepsLeft_cons_le before seen a
    have ha : stepsLeft next after (a :: seen) ≤ stepsLeft next after seen :=
      stepsLeft_cons_le after seen a
    rw [stepsLeft_append, stepsLeft_append, there, here]
    omega

/-- A bound that is greater than the number of places that wait and of steps that are left is never
reached. -/
theorem searches_firstFrom? {places : List α} (closed : ∀ a, next a ≠ [] → a ∈ places)
    {bound : Nat} {seen waiting : List α}
    (enough : waiting.length + stepsLeft next places seen < bound) :
    Searches next look seen waiting (firstFrom? next look bound seen waiting) := by
  induction bound generalizing seen waiting with
  | zero => omega
  | succ bound ih =>
    cases waiting with
    | nil => exact .done seen
    | cons a waiting =>
      rw [List.length_cons] at enough
      rw [firstFrom?]
      split
      · next known => exact .again known (ih (by omega))
      · next new =>
        split
        · next b here => exact .found new here
        · next nothing =>
          have fewer := stepsLeft_cons closed new
          refine .onward new nothing (ih ?_)
          rw [List.length_append]
          omega

/-! ## Rows -/

/-- The members of a list that are not known, each at its first place. -/
def fresh (known : List α) : List α → List α
  | [] => []
  | a :: l => if a ∈ known then fresh known l else a :: fresh (a :: known) l

theorem mem_fresh {known l : List α} {a : α} : a ∈ fresh known l ↔ a ∈ l ∧ a ∉ known := by
  induction l generalizing known with
  | nil => simp [fresh]
  | cons b l ih =>
    rw [fresh]
    split
    · next hb =>
      rw [ih, List.mem_cons]
      exact ⟨fun h => ⟨.inr h.1, h.2⟩, fun h => ⟨h.1.resolve_left fun e => h.2 (e ▸ hb), h.2⟩⟩
    · next hb =>
      rw [List.mem_cons, ih]
      by_cases e : a = b
      · simp [e, hb]
      · simp [e]

theorem fresh_congr {known known' : List α} (h : ∀ a, a ∈ known ↔ a ∈ known') (l : List α) :
    fresh known l = fresh known' l := by
  induction l generalizing known known' with
  | nil => rfl
  | cons b l ih =>
    have more (a : α) : a ∈ b :: known ↔ a ∈ b :: known' := by simp [h]
    rw [fresh, fresh, ih h, ih more]
    simp only [h]

variable (next)

/-- The places fewer than a number of steps away, and the row of those that are as many away. A row
is what the row before leads to, read from left to right, as far as it is new. -/
def rowsUpTo (start : α) : Nat → List α × List α
  | 0 => ([], [start])
  | k + 1 =>
    let (nearer, row) := rowsUpTo start k
    (nearer ++ row, fresh (nearer ++ row) (row.flatMap next))

/-- The places that are a number of steps away and no fewer, in the order in which they are met. -/
def row (start : α) (k : Nat) : List α := (rowsUpTo next start k).2

variable {next}

theorem mem_rowsUpTo (start : α) (k : Nat) (a : α) :
    (a ∈ (rowsUpTo next start k).1 ↔ ∃ j < k, After (Leads next) j start a) ∧
      (a ∈ (rowsUpTo next start k).2 ↔ After (Leads next) k start a ∧
        ∀ j < k, ¬After (Leads next) j start a) := by
  induction k generalizing a with
  | zero => simp [rowsUpTo, after_zero_iff, eq_comm]
  | succ k ih =>
    have nearer (a : α) : a ∈ (rowsUpTo next start k).1 ++ (rowsUpTo next start k).2 ↔
        ∃ j < k + 1, After (Leads next) j start a := by
      rw [List.mem_append, (ih a).1, (ih a).2]
      constructor
      · rintro (⟨j, hj, walk⟩ | ⟨walk, -⟩)
        · exact ⟨j, by omega, walk⟩
        · exact ⟨k, by omega, walk⟩
      · rintro ⟨j, hj, walk⟩
        by_cases fewer : ∃ j < k, After (Leads next) j start a
        · exact .inl fewer
        · obtain rfl : j = k := by
            by_contra hne
            exact fewer ⟨j, by omega, walk⟩
          exact .inr ⟨walk, fun i hi walk' => fewer ⟨i, hi, walk'⟩⟩
    refine ⟨nearer a, ?_⟩
    change a ∈ fresh _ _ ↔ _
    rw [mem_fresh, nearer, List.mem_flatMap, after_succ_iff]
    constructor
    · rintro ⟨⟨b, hb, last⟩, new⟩
      exact ⟨⟨b, ((ih b).2.1 hb).1, last⟩, fun j hj walk => new ⟨j, hj, walk⟩⟩
    · rintro ⟨⟨b, walk, last⟩, new⟩
      -- A shorter way to the place before the last step would make the whole way shorter.
      have nearest (j : Nat) (hj : j < k) : ¬After (Leads next) j start b :=
        fun walk' => new (j + 1) (by omega) (walk'.concat last)
      exact ⟨⟨b, (ih b).2.2 ⟨walk, nearest⟩, last⟩, fun ⟨j, hj, walk'⟩ => new j hj walk'⟩

theorem mem_row_iff {start a : α} {k : Nat} :
    a ∈ row next start k ↔ After (Leads next) k start a ∧
      ∀ j < k, ¬After (Leads next) j start a :=
  (mem_rowsUpTo start k a).2

/-- A place to which steps lead stands in a row. -/
theorem exists_mem_row {start a : α} {k : Nat} (h : After (Leads next) k start a) :
    ∃ j ≤ k, a ∈ row next start j := by
  classical
  have reached : ∃ j, After (Leads next) j start a := ⟨k, h⟩
  exact ⟨Nat.find reached, Nat.find_min' reached h,
    mem_row_iff.2 ⟨Nat.find_spec reached, fun j hj => Nat.find_min reached hj⟩⟩

/-- The first place of which something holds: it does not hold of the places in front of it in its
row, nor of those to which fewer steps lead. -/
structure First (next : α → List α) (P : α → Prop) (start : α) (k : Nat) (a : α) : Prop where
  holds : P a
  place : ∃ before after, row next start k = before ++ a :: after ∧ ∀ e ∈ before, ¬P e
  nearer : ∀ j < k, ∀ e, After (Leads next) j start e → ¬P e

/-- As many steps lead to the first place of which something holds as its row says. -/
theorem First.after {P : α → Prop} {start a : α} {k : Nat} (h : First next P start k a) :
    After (Leads next) k start a := by
  obtain ⟨before, after, split, -⟩ := h.place
  exact (mem_row_iff.1 (split ▸ List.mem_append_right before List.mem_cons_self)).1

theorem First.congr {P Q : α → Prop} {start a : α} {k : Nat} (h : First next P start k a)
    (same : ∀ j e, After (Leads next) j start e → (P e ↔ Q e)) : First next Q start k a where
  holds := (same k a h.after).1 h.holds
  place := by
    obtain ⟨before, after, split, earlier⟩ := h.place
    refine ⟨before, after, split, fun e he holds => earlier e he ?_⟩
    have walk := (mem_row_iff.1 (split ▸ List.mem_append_left _ he)).1
    exact (same k e walk).2 holds
  nearer j hj e walk holds := h.nearer j hj e walk ((same j e walk).2 holds)

/-! ## What a search finds -/

/-- A search passes the places at the front of those that wait before it looks at any of the others:
it finds what is found first among those of them that are new, or goes on with what they lead to. -/
theorem Searches.pass {seen front waiting : List α} {r : Option β}
    (h : Searches next look seen (front ++ waiting) r) :
    (∃ b, (fresh seen front).findSome? look = some b ∧ r = some b) ∨
      (fresh seen front).findSome? look = none ∧
        Searches next look ((fresh seen front).reverse ++ seen)
          (waiting ++ (fresh seen front).flatMap next) r := by
  induction front generalizing seen waiting with
  | nil => exact .inr ⟨rfl, by simpa [fresh] using h⟩
  | cons a front ih =>
    cases h with
    | again known rest =>
      rw [fresh, if_pos known]
      exact ih rest
    | @found _ _ _ b new here =>
      rw [fresh, if_neg new]
      exact .inl ⟨b, by simp [here], rfl⟩
    | onward new nothing rest =>
      rw [fresh, if_neg new, List.findSome?_cons_of_isNone (by simp [nothing])]
      rw [show front.append waiting = front ++ waiting from rfl, List.append_assoc] at rest
      simpa using ih rest

section start

variable {start : α} {r : Option β} (h : Searches next look [] [start] r)

include h

/-- A search that finds nothing in some rows goes on with what the last of them leads to. -/
theorem Searches.rows (k : Nat) (nothing : ∀ j < k, (row next start j).findSome? look = none) :
    ∃ seen waiting, (∀ a, a ∈ seen ↔ a ∈ (rowsUpTo next start k).1) ∧
      fresh seen waiting = row next start k ∧ Searches next look seen waiting r := by
  induction k with
  | zero => exact ⟨[], [start], fun _ => Iff.rfl, by simp [fresh, row, rowsUpTo], h⟩
  | succ k ih =>
    obtain ⟨seen, waiting, same, met, search⟩ := ih fun j hj => nothing j (by omega)
    have last := nothing k (by omega)
    rw [← List.append_nil waiting] at search
    rcases search.pass with ⟨b, found, -⟩ | ⟨-, rest⟩
    · rw [met, last] at found
      cases found
    · rw [met] at rest
      have known (a : α) : a ∈ (row next start k).reverse ++ seen ↔
          a ∈ (rowsUpTo next start (k + 1)).1 := by
        simp [rowsUpTo, row, same, or_comm]
      exact ⟨_, _, known, fresh_congr known _, rest⟩

/-- The first thing in the nearest row that has any is what is found. -/
theorem Searches.eq_some_of_row {k : Nat} {b : β}
    (nothing : ∀ j < k, (row next start j).findSome? look = none)
    (found : (row next start k).findSome? look = some b) : r = some b := by
  obtain ⟨seen, waiting, -, met, search⟩ := h.rows k nothing
  rw [← List.append_nil waiting] at search
  rcases search.pass with ⟨b', found', rfl⟩ | ⟨missed, -⟩
  · rw [met, found] at found'
    exact found'.symm
  · rw [met, found] at missed
    cases missed

/-- Where something is to be found, a search finds it in the nearest row that has any. -/
theorem Searches.exists_row {k : Nat} {d : α} {b : β} (walk : After (Leads next) k start d)
    (there : look d = some b) :
    ∃ j b', r = some b' ∧ (row next start j).findSome? look = some b' ∧
      ∀ i < j, (row next start i).findSome? look = none := by
  classical
  obtain ⟨j, -, hd⟩ := exists_mem_row walk
  have some_row : ∃ j, (row next start j).findSome? look ≠ none :=
    ⟨j, fun none => by simp [List.findSome?_eq_none_iff.1 none d hd] at there⟩
  have nothing (i : Nat) (hi : i < Nat.find some_row) :
      (row next start i).findSome? look = none :=
    not_not.1 (Nat.find_min some_row hi)
  obtain ⟨b', found⟩ := Option.ne_none_iff_exists'.1 (Nat.find_spec some_row)
  exact ⟨_, b', h.eq_some_of_row nothing found, found, nothing⟩

/-- **A search finds nothing** exactly if there is nothing to be found at any place that steps lead
to. -/
theorem Searches.eq_none_iff :
    r = none ↔ ∀ k d, After (Leads next) k start d → look d = none := by
  constructor
  · intro none k d walk
    by_contra some
    obtain ⟨b, there⟩ := Option.ne_none_iff_exists'.1 some
    obtain ⟨_, _, found, -⟩ := h.exists_row walk there
    simp [none] at found
  · intro nothing
    cases r with
    | none => rfl
    | some b =>
      obtain ⟨a, ha, k, d, walk, found⟩ := h.exists_of_some
      obtain rfl := List.mem_singleton.1 ha
      simp [nothing k d walk] at found

/-- **A search finds something** exactly if it is at the first place that has anything. -/
theorem Searches.eq_some_iff {b : β} :
    r = some b ↔ ∃ k d, First next (look · ≠ none) start k d ∧ look d = some b := by
  constructor
  · rintro rfl
    obtain ⟨a, ha, k, d, walk, there⟩ := h.exists_of_some
    obtain rfl := List.mem_singleton.1 ha
    obtain ⟨j, b', same, found, nothing⟩ := h.exists_row walk there
    obtain rfl := Option.some.inj same
    obtain ⟨before, d, after, split, here, earlier⟩ := List.findSome?_eq_some_iff.1 found
    refine ⟨j, d, ⟨by simp [here], ⟨before, after, split, ?_⟩, fun i hi e walk => ?_⟩, here⟩
    · exact fun e he some => some (earlier e he)
    · obtain ⟨i', hi', he⟩ := exists_mem_row walk
      exact not_not.2 (List.findSome?_eq_none_iff.1 (nothing i' (by omega)) e he)
  · rintro ⟨k, d, first, here⟩
    obtain ⟨before, after, split, earlier⟩ := first.place
    refine h.eq_some_of_row (k := k) (fun j hj => ?_) ?_
    · exact List.findSome?_eq_none_iff.2 fun e he =>
        not_not.1 (first.nearer j hj e (mem_row_iff.1 he).1)
    · exact List.findSome?_eq_some_iff.2
        ⟨before, d, after, split, here, fun e he => not_not.1 (earlier e he)⟩

end start

end ArchModel.BreadthFirst
