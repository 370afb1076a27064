import ArchModel.Proofs.Text.Cut

/-!
# Counting a sequence

The occurrences of a sequence in a text, from the left and without overlap.

* `countSeqChars_append_cons`: around a character that the sequence does not have, the two sides are
  counted on their own.
* `countSeqChars_append_left` and `countSeqChars_append_right`: characters that the sequence does
  not have do not count, so trimming changes no count (`countSeq_strip`).
* `countSeqChars_pos`: what stands in a text is counted.
-/

namespace ArchModel.Text

variable {p a b cs : List Char} {c : Char}

theorem countSeqChars_nil (cs : List Char) : countSeqChars [] cs = 0 := by
  induction cs with
  | nil => rw [countSeqChars]
  | cons c cs ih => simpa [countSeqChars] using ih

/-- At the front of a text a sequence is counted as a whole. -/
theorem countSeqChars_append (hp : p ≠ []) (cs : List Char) :
    countSeqChars p (p ++ cs) = 1 + countSeqChars p cs := by
  obtain ⟨c, rest, rfl⟩ := List.exists_cons_of_ne_nil hp
  have front : (c :: rest).isPrefixOf (c :: (rest ++ cs)) = true :=
    List.isPrefixOf_iff_prefix.2 (List.prefix_append (c :: rest) cs)
  rw [List.cons_append, countSeqChars, front, if_pos (by simp), ← List.cons_append,
    Nat.max_eq_right (by simp), List.drop_left]

theorem countSeqChars_cons_of_apart (h : ¬p <+: c :: cs) :
    countSeqChars p (c :: cs) = countSeqChars p cs := by
  rw [countSeqChars, if_neg]
  simpa [List.isPrefixOf_iff_prefix] using fun _ => h

/-- Around a character that the sequence does not have, the two sides are counted on their own. -/
theorem countSeqChars_append_cons (hc : c ∉ p) (a b : List Char) :
    countSeqChars p (a ++ c :: b) = countSeqChars p a + countSeqChars p b := by
  by_cases hp : p = []
  · subst hp
    simp only [countSeqChars_nil]
  induction hn : a.length using Nat.strong_induction_on generalizing a with
  | _ n ih =>
    by_cases front : p <+: a
    · obtain ⟨rest, rfl⟩ := front
      have shorter : rest.length < n := by
        have := List.length_pos_iff.2 hp
        rw [← hn, List.length_append]
        omega
      rw [List.append_assoc, countSeqChars_append hp, countSeqChars_append hp,
        ih _ shorter rest rfl, Nat.add_assoc]
    · have front' : ¬p <+: a ++ c :: b := fun h => front (prefix_of_prefix_append_cons hc h)
      cases a with
      | nil =>
        rw [List.nil_append, countSeqChars_cons_of_apart front', countSeqChars, Nat.zero_add]
      | cons d a =>
        rw [List.cons_append] at front' ⊢
        rw [countSeqChars_cons_of_apart front', countSeqChars_cons_of_apart front]
        exact ih _ (by simp [← hn]) a rfl

/-- Characters that the sequence does not have do not count in front of a text. -/
theorem countSeqChars_append_left (h : ∀ c ∈ a, c ∉ p) :
    countSeqChars p (a ++ cs) = countSeqChars p cs := by
  induction a with
  | nil => rfl
  | cons c a ih =>
    obtain ⟨hc, ha⟩ := List.forall_mem_cons.1 h
    have apart := countSeqChars_append_cons hc [] (a ++ cs)
    rw [List.nil_append, countSeqChars, Nat.zero_add] at apart
    rw [List.cons_append, apart, ih ha]

/-- Nor do they behind it. -/
theorem countSeqChars_append_right (h : ∀ c ∈ a, c ∉ p) :
    countSeqChars p (cs ++ a) = countSeqChars p cs := by
  cases a with
  | nil => rw [List.append_nil]
  | cons c a =>
    obtain ⟨hc, ha⟩ := List.forall_mem_cons.1 h
    have none : countSeqChars p (a ++ []) = countSeqChars p [] := countSeqChars_append_left ha
    rw [List.append_nil, countSeqChars] at none
    rw [countSeqChars_append_cons hc, none, Nat.add_zero]

/-- What stands in a text is counted. -/
theorem countSeqChars_pos (hp : p ≠ []) (h : p <:+: cs) : 0 < countSeqChars p cs := by
  induction cs with
  | nil => exact absurd (List.infix_nil.1 h) hp
  | cons c cs ih =>
    by_cases front : p <+: c :: cs
    · obtain ⟨rest, whole⟩ := front
      rw [← whole, countSeqChars_append hp]
      omega
    · rw [countSeqChars_cons_of_apart front]
      exact ih ((List.infix_cons_iff.1 h).resolve_left front)

/-- Trimming changes no count of a sequence without white space. -/
theorem countSeqChars_stripChars (hp : ∀ c ∈ p, isBlank c = false) (cs : List Char) :
    countSeqChars p (stripChars cs) = countSeqChars p cs := by
  have outside {blank : List Char} (h : Blank blank) : ∀ c ∈ blank, c ∉ p := by
    intro c hc inside
    simpa [h c hc] using hp c inside
  have front (cs : List Char) : countSeqChars p (stripStartChars cs) = countSeqChars p cs := by
    have blank : Blank (cs.takeWhile isBlank) := fun c hc => List.mem_takeWhile_imp hc
    calc countSeqChars p (stripStartChars cs)
      _ = countSeqChars p (cs.takeWhile isBlank ++ stripStartChars cs) :=
        (countSeqChars_append_left (outside blank)).symm
      _ = countSeqChars p cs := by rw [stripStartChars, List.takeWhile_append_dropWhile]
  have back (cs : List Char) : countSeqChars p (stripEndChars cs) = countSeqChars p cs := by
    have blank : Blank (cs.reverse.takeWhile isBlank).reverse := fun c hc =>
      List.mem_takeWhile_imp (List.mem_reverse.1 hc)
    calc countSeqChars p (stripEndChars cs)
      _ = countSeqChars p (stripEndChars cs ++ (cs.reverse.takeWhile isBlank).reverse) :=
        (countSeqChars_append_right (outside blank)).symm
      _ = countSeqChars p cs := by
        rw [stripEndChars, ← List.reverse_append, List.takeWhile_append_dropWhile,
          List.reverse_reverse]
  exact (back _).trans (front cs)

end ArchModel.Text
