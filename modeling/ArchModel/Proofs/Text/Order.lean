import ArchModel.Text.Char
import Mathlib.Data.List.Lex

/-!
# The order of texts

Texts stand in the lexicographic order of their code points.

* `codes_injective`: code points tell texts apart, surrogates and characters alike.
* `inOrder_iff`: texts are in order if their code points are, as lists of numbers.
-/

namespace ArchModel.Text

theorem isSurrogate_iff {c : Char} : isSurrogate c = true ↔
    surrogateShift + 0xd800 ≤ c.toNat ∧ c.toNat < surrogateShift + 0xe000 := by
  delta isSurrogate
  rw [Bool.and_eq_true, decide_eq_true_iff, decide_eq_true_iff]

/-- The code points of surrogates are those that no character has. -/
theorem codeOf_cases (c : Char) :
    (c.toNat < 0xd800 ∨ 0xdfff < c.toNat) ∧ codeOf c = c.toNat ∨
      (0xd800 ≤ codeOf c ∧ codeOf c ≤ 0xdfff) ∧ c.toNat = surrogateShift + codeOf c := by
  by_cases h : isSurrogate c = true
  · have code : codeOf c = c.toNat - surrogateShift := if_pos h
    rw [isSurrogate_iff] at h
    right
    omega
  · have code : codeOf c = c.toNat := if_neg h
    have valid : c.toNat < 0xd800 ∨ 0xdfff < c.toNat ∧ c.toNat < 0x110000 := c.valid
    exact .inl ⟨valid.imp_right And.left, code⟩

theorem codeOf_injective : Function.Injective codeOf := by
  intro c d same
  have hc := codeOf_cases c
  have hd := codeOf_cases d
  have numbers : c.toNat = d.toNat := by omega
  exact Char.toNat_inj.1 numbers

theorem codes_injective : Function.Injective codes := fun _ _ same =>
  String.toList_inj.1 (List.map_injective_iff.2 codeOf_injective same)

/-- Two rows are in order if they are in the lexicographic order. -/
theorem rowsInOrder_iff {as bs : List Nat} : rowsInOrder as bs = true ↔ as ≤ bs := by
  rw [le_iff_lt_or_eq]
  fun_induction rowsInOrder as bs with
  | case1 bs => cases bs <;> simp
  | case2 a as => simp
  | case3 as b bs ih => simp [ih]
  | case4 a as b bs apart => simp [List.cons_lt_cons_iff, apart]

theorem inOrder_iff {s t : String} : inOrder s t = true ↔ codes s ≤ codes t := rowsInOrder_iff

end ArchModel.Text
