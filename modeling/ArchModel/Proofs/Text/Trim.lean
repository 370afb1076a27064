import ArchModel.Text.Lines
import Mathlib.Data.List.DropRight

/-!
# Trimmed texts

Trimming removes white space at both ends and nothing else.

* `Blank` texts are white space throughout.
* `Trimmed` texts have none there (`trimmed_iff`), and trimming gives a trimmed text
  (`trimmed_strip`).
* `stripChars_append_cons`: around a character that is no white space, the two sides are trimmed on
  their own.
* `OneLine` texts have no line break.
-/

namespace ArchModel.Text

/-- White space throughout. -/
def Blank (cs : List Char) : Prop := ∀ c ∈ cs, isBlank c = true

/-- There is no white space at either end of the text. -/
def Trimmed (s : String) : Prop := strip s = s

/-- There is no line break in the text. -/
def OneLine (s : String) : Prop := ∀ c ∈ s.toList, isLineBreak c = false

-- The characters of a text are tried, and never all characters that there are.
instance : DecidablePred Blank := fun cs => List.decidableBAll (isBlank · = true) cs

instance (s : String) : Decidable (Trimmed s) := inferInstanceAs (Decidable (strip s = s))

instance (s : String) : Decidable (OneLine s) := List.decidableBAll (isLineBreak · = false) s.toList

variable {a b cs : List Char} {c : Char}

/-! ## One end -/

theorem stripStartChars_append_of_blank (h : Blank a) :
    stripStartChars (a ++ cs) = stripStartChars cs :=
  List.dropWhile_append_of_pos h

theorem stripStartChars_cons (h : isBlank c = false) : stripStartChars (c :: cs) = c :: cs := by
  rw [stripStartChars, List.dropWhile_cons_of_neg (by simp [h])]

theorem stripStartChars_append_cons (h : isBlank c = false) :
    stripStartChars (a ++ c :: b) = stripStartChars a ++ c :: b := by
  rw [stripStartChars, List.dropWhile_append]
  split
  · next ha => rw [stripStartChars, List.isEmpty_iff.1 ha, List.nil_append,
      List.dropWhile_cons_of_neg (by simp [h])]
  · rfl

theorem stripEndChars_eq (cs : List Char) :
    stripEndChars cs = (stripStartChars cs.reverse).reverse := rfl

theorem stripEndChars_append_of_blank (h : Blank a) :
    stripEndChars (cs ++ a) = stripEndChars cs := by
  rw [stripEndChars_eq, List.reverse_append,
    stripStartChars_append_of_blank fun c hc => h c (List.mem_reverse.1 hc), ← stripEndChars_eq]

theorem stripEndChars_append_cons (h : isBlank c = false) :
    stripEndChars (a ++ c :: b) = a ++ c :: stripEndChars b := by
  have back : (a ++ c :: b).reverse = b.reverse ++ c :: a.reverse := by simp
  rw [stripEndChars_eq, back, stripStartChars_append_cons h, stripEndChars_eq]
  simp

theorem isPrefix_stripEndChars (cs : List Char) : stripEndChars cs <+: cs :=
  List.rdropWhile_prefix isBlank cs

theorem isSuffix_stripStartChars (cs : List Char) : stripStartChars cs <:+ cs :=
  List.dropWhile_suffix isBlank

/-! ## Both ends -/

/-- White space throughout, or white space in front of another character. -/
theorem blank_or_exists (cs : List Char) :
    Blank cs ∨ ∃ a c b, cs = a ++ c :: b ∧ Blank a ∧ isBlank c = false := by
  induction cs with
  | nil => exact .inl (by simp [Blank])
  | cons x cs ih =>
    cases hx : isBlank x with
    | false => exact .inr ⟨[], x, cs, rfl, by simp [Blank], hx⟩
    | true =>
      rcases ih with blank | ⟨a, c, b, rfl, ha, hc⟩
      · exact .inl (List.forall_mem_cons.2 ⟨hx, blank⟩)
      · exact .inr ⟨x :: a, c, b, rfl, List.forall_mem_cons.2 ⟨hx, ha⟩, hc⟩

theorem stripChars_eq_nil_iff : stripChars cs = [] ↔ Blank cs := by
  rw [stripChars]
  refine ⟨fun h => ?_, fun h => ?_⟩
  · rcases blank_or_exists cs with blank | ⟨a, c, b, rfl, ha, hc⟩
    · exact blank
    · rw [stripStartChars_append_of_blank ha, stripStartChars_cons hc] at h
      have kept : stripEndChars ([] ++ c :: b) = [] ++ c :: stripEndChars b :=
        stripEndChars_append_cons hc
      simp only [List.nil_append, h] at kept
      cases kept
  · have none : stripStartChars cs = [] := List.dropWhile_eq_nil_iff.2 h
    rw [none]
    rfl

theorem stripChars_append_cons (h : isBlank c = false) :
    stripChars (a ++ c :: b) = stripStartChars a ++ c :: stripEndChars b := by
  rw [stripChars, stripStartChars_append_cons h, stripEndChars_append_cons h]

theorem stripChars_cons (h : isBlank c = false) :
    stripChars (c :: cs) = c :: stripEndChars cs :=
  stripChars_append_cons (a := []) h

theorem stripChars_append_left_of_blank (h : Blank a) :
    stripChars (a ++ cs) = stripChars cs :=
  congrArg stripEndChars (stripStartChars_append_of_blank h)

theorem stripChars_append_right_of_blank (h : Blank b) :
    stripChars (cs ++ b) = stripChars cs := by
  rcases blank_or_exists cs with blank | ⟨x, c, y, rfl, -, hc⟩
  · rw [stripChars_eq_nil_iff.2 blank, stripChars_eq_nil_iff]
    exact fun c hc => (List.mem_append.1 hc).elim (blank c) (h c)
  · rw [List.append_assoc, List.cons_append, stripChars_append_cons hc, stripChars_append_cons hc,
      stripEndChars_append_of_blank h]

@[simp] theorem stripChars_stripStartChars (cs : List Char) :
    stripChars (stripStartChars cs) = stripChars cs :=
  congrArg stripEndChars (List.dropWhile_idempotent isBlank cs)

@[simp] theorem stripChars_stripEndChars (cs : List Char) :
    stripChars (stripEndChars cs) = stripChars cs := by
  rcases blank_or_exists cs with blank | ⟨a, c, b, rfl, ha, hc⟩
  · rw [stripChars_eq_nil_iff.2 blank, stripChars_eq_nil_iff.2 fun c hc =>
      blank c ((isPrefix_stripEndChars cs).subset hc)]
  · rw [stripEndChars_append_cons hc, stripChars_append_cons hc, stripChars_append_cons hc]
    congr 2
    exact List.rdropWhile_idempotent isBlank b

@[simp] theorem stripChars_stripChars (cs : List Char) :
    stripChars (stripChars cs) = stripChars cs := by
  rw [show stripChars cs = stripEndChars (stripStartChars cs) from rfl, stripChars_stripEndChars,
    stripChars_stripStartChars]
  rfl

theorem isInfix_stripChars (cs : List Char) : stripChars cs <:+: cs :=
  (isPrefix_stripEndChars _).isInfix.trans (isSuffix_stripStartChars cs).isInfix

/-! ## Trimmed texts -/

theorem trimmed_iff_toList {s : String} : Trimmed s ↔ stripChars s.toList = s.toList := by
  rw [Trimmed, ← String.toList_inj, toList_strip]

theorem trimmed_strip (s : String) : Trimmed (strip s) := by
  rw [trimmed_iff_toList, toList_strip, stripChars_stripChars]

theorem Trimmed.stripStartChars_eq {s : String} (h : Trimmed s) :
    stripStartChars s.toList = s.toList := by
  have short := (isPrefix_stripEndChars (stripStartChars s.toList)).length_le
  rw [← stripChars, trimmed_iff_toList.1 h] at short
  exact (isSuffix_stripStartChars s.toList).eq_of_length
    (le_antisymm (isSuffix_stripStartChars s.toList).length_le short)

theorem strip_eq_empty_iff {s : String} : strip s = "" ↔ Blank s.toList := by
  rw [← String.toList_inj, toList_strip, String.toList_empty, stripChars_eq_nil_iff]

/-- A text that is not empty and trimmed begins with a character that is no white space. -/
theorem Trimmed.exists_cons {s : String} (h : Trimmed s) (hne : s ≠ "") :
    ∃ c cs, s.toList = c :: cs ∧ isBlank c = false := by
  rw [trimmed_iff_toList] at h
  rcases blank_or_exists s.toList with blank | ⟨a, c, b, hs, ha, hc⟩
  · rw [stripChars_eq_nil_iff.2 blank] at h
    exact absurd (String.toList_eq_nil_iff.1 h.symm) hne
  · have none : stripStartChars a = [] := List.dropWhile_eq_nil_iff.2 ha
    rw [hs, stripChars_append_cons hc, none, List.nil_append] at h
    have short := (isPrefix_stripEndChars b).length_le
    have same := congrArg List.length h
    rw [List.length_append, List.length_cons, List.length_cons] at same
    obtain rfl : a = [] := List.length_eq_zero_iff.1 (by omega)
    exact ⟨c, b, hs, hc⟩

theorem OneLine.of_subset {s t : String} (h : OneLine t) (sub : s.toList ⊆ t.toList) : OneLine s :=
  fun c hc => h c (sub hc)

theorem OneLine.strip {s : String} (h : OneLine s) : OneLine (strip s) :=
  h.of_subset (by rw [toList_strip]; exact (isInfix_stripChars _).subset)

end ArchModel.Text
