import ArchModel.Proofs.Text.Count
import ArchModel.Tag.Docstring

/-!
# Heads of blocks

* `isWord_of_lt` tells which characters of ASCII belong to words.
* `countSeq_of_head?`: the rest of a head has the delimiters of multi-line values that the line has.
* `exists_head?_strip`: an at-sign with a name and a text behind it is a head.
-/

namespace ArchModel

open Text

/-! ## Words -/

theorem Text.le_of_mem_wordBoundaries {n : Nat} (h : n ∈ wordBoundaries) : 0xaa ≤ n := by
  have all : wordBoundaries.toList.all (fun n => decide (0xaa ≤ n)) = true := by decide +kernel
  simpa using List.all_eq_true.1 all n (Array.mem_toList_iff.2 h)

/-- Within ASCII, letters, digits and underscores make up words. -/
theorem Text.isWord_of_lt {c : Char} (h : c.toNat < 0x80) :
    isWord c = (c.isAlphanum || c == '_') := by
  have none : wordBoundaries.countP (fun b => b ≤ c.toNat) = 0 := by
    rw [Array.countP_eq_zero]
    intro b hb
    have := le_of_mem_wordBoundaries hb
    simp
    omega
  simp [isWord, insideBoundaries, none]

/-- A run of characters of a class up to the first one of another class. -/
theorem Text.span_append {p : Char → Bool} {a b : List Char} (ha : ∀ c ∈ a, p c = true)
    (hb : ∀ c ∈ b.head?, p c = false) :
    (a ++ b).takeWhile p = a ∧ (a ++ b).dropWhile p = b := by
  rw [List.takeWhile_append_of_pos ha, List.dropWhile_append_of_pos ha]
  cases b with
  | nil => simp
  | cons c b => simp [hb c rfl]

/-- Trimming the end leaves nothing, or a blank in front of a part of the text. -/
theorem Text.stripEndChars_space (cs : List Char) :
    stripEndChars (' ' :: cs) = [] ∨
      ∃ more, stripEndChars (' ' :: cs) = ' ' :: more ∧ more ⊆ cs := by
  have front : stripEndChars (' ' :: cs) <+: ' ' :: cs := isPrefix_stripEndChars _
  rcases List.prefix_cons_iff.1 front with none | ⟨more, some, inside⟩
  · exact .inl none
  · exact .inr ⟨more, some, inside.subset⟩

/-! ## Delimiters -/

theorem eq_of_mem_multiline {c : Char} (h : c ∈ multiline.toList) : c = '"' := by
  simpa [multiline] using h

/-- Trimming a text takes no delimiter off it. -/
theorem countSeqChars_multiline_stripChars (cs : List Char) :
    countSeqChars multiline.toList (stripChars cs) = countSeqChars multiline.toList cs := by
  refine countSeqChars_stripChars (fun c hc => ?_) cs
  rw [eq_of_mem_multiline hc]
  decide

namespace Docstring

/-! ## Heads -/

/-- The rest of a head has the delimiters of the line. -/
theorem countSeq_of_head? {stripped name rest : String} (h : head? stripped = some (name, rest)) :
    countSeq multiline rest = countSeq multiline stripped ∧ rest.toList ⊆ stripped.toList := by
  have quote : isWord '"' = false := isWord_of_lt (by decide)
  unfold head? at h
  split at h
  · next cs chars =>
    dsimp only at h
    split at h
    · cases h
    · obtain ⟨rfl, rfl⟩ := Prod.mk.inj (Option.some.inj h)
      have word : ∀ c ∈ '@' :: cs.takeWhile isWord, c ∉ multiline.toList := by
        intro c hc inside
        obtain rfl := eq_of_mem_multiline inside
        rcases List.mem_cons.1 hc with sign | hc
        · exact absurd sign (by decide)
        · simpa [quote] using List.mem_takeWhile_imp hc
      have whole : '@' :: cs = ('@' :: cs.takeWhile isWord) ++ cs.dropWhile isWord := by
        rw [List.cons_append, List.takeWhile_append_dropWhile]
      constructor
      · rw [countSeq, countSeq, chars, whole, countSeqChars_append_left word, String.toList_ofList,
          ← countSeqChars_multiline_stripChars, stripChars_stripStartChars,
          countSeqChars_multiline_stripChars]
      · rw [chars, String.toList_ofList]
        have sub : stripStartChars (cs.dropWhile isWord) ⊆ cs := fun c hc =>
          (List.dropWhile_sublist _).subset ((isSuffix_stripStartChars _).subset hc)
        exact fun c hc => List.mem_cons_of_mem _ (sub hc)
  · cases h

/-- An at-sign with a name and a text behind it is a head; its rest reads as the text. -/
theorem exists_head?_strip {name : String} (hne : name ≠ "")
    (word : name.toList.all (fun c => isWord c && !isBlank c) = true) (text : String) :
    ∃ rest, head? (strip ("@" ++ name ++ " " ++ text)) = some (name, rest) ∧
      strip rest = strip text ∧ rest.toList ⊆ text.toList := by
  simp only [List.all_eq_true, Bool.and_eq_true, Bool.not_eq_true'] at word
  obtain ⟨init, last, chars⟩ : ∃ init last, name.toList = init ++ [last] :=
    ⟨_, _, (List.dropLast_append_getLast (by simpa using hne)).symm⟩
  have whole : (strip ("@" ++ name ++ " " ++ text)).toList =
      '@' :: (name.toList ++ stripEndChars (' ' :: text.toList)) := by
    have line : ("@" ++ name ++ " " ++ text).toList =
        '@' :: (init ++ last :: (' ' :: text.toList)) := by simp [chars]
    have kept : isBlank last = false := (word last (by simp [chars])).2
    rw [toList_strip, line, stripChars_cons (by decide), stripEndChars_append_cons kept, chars,
      List.append_assoc, List.singleton_append]
  have cases := stripEndChars_space text.toList
  have read : stripChars (stripEndChars (' ' :: text.toList)) = stripChars text.toList := by
    rw [stripChars_stripEndChars]
    exact stripChars_append_left_of_blank (a := [' ']) (by decide)
  generalize stripEndChars (' ' :: text.toList) = tail at *
  have apart : ∀ c ∈ tail.head?, isWord c = false := by
    intro c hc
    rcases cases with rfl | ⟨more, rfl, -⟩
    · cases hc
    · obtain rfl := Option.some.inj hc
      exact isWord_of_lt (by decide)
  obtain ⟨taken, dropped⟩ := span_append (fun c hc => (word c hc).1) apart
  refine ⟨String.ofList (stripStartChars tail), ?_, ?_, ?_⟩
  · simp [head?, whole, taken, dropped, hne]
  · rw [← String.toList_inj, toList_strip, toList_strip, String.toList_ofList,
      stripChars_stripStartChars, read]
  · rw [String.toList_ofList]
    rcases cases with rfl | ⟨more, rfl, inside⟩
    · simp [stripStartChars]
    · have skipped : stripStartChars (' ' :: more) = stripStartChars more :=
        stripStartChars_append_of_blank (a := [' ']) (by decide)
      rw [skipped]
      exact fun c hc => inside ((isSuffix_stripStartChars more).subset hc)

end Docstring

end ArchModel
