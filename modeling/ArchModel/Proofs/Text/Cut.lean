import ArchModel.Proofs.Text.Trim

/-!
# Cutting and joining

What the parts of a text are, and that joining parts and dividing them again gives the same parts.

* `cutChars_eq_some_iff` and `cutSeqChars_eq_none_iff` say when there is a cut, and where.
* `map_strip_splitOn`: trimming a text changes its parts no more than trimming each part does.
* `map_strip_splitOn_intercalate`: parts that are joined by a separator with white space around it
  come back when the text is divided and each part is trimmed.
* `infix_of_infix_append_cons`: what stands in a text does not stand across a character that it does
  not have.
-/

namespace ArchModel.Text

variable {a b cs p : List Char} {c sep : Char}

theorem toList_join (sep : String) (parts : List String) :
    (join sep parts).toList = sep.toList.intercalate (parts.map String.toList) :=
  String.toList_intercalate

theorem startsWith_iff {start s : String} : startsWith start s = true ↔ start.toList <+: s.toList :=
  List.isPrefixOf_iff_prefix

theorem containsChar_iff {s : String} : containsChar c s = true ↔ c ∈ s.toList :=
  List.contains_iff_mem

theorem OneLine.append {s t : String} (hs : OneLine s) (ht : OneLine t) : OneLine (s ++ t) := by
  intro c hc
  rw [String.toList_append, List.mem_append] at hc
  exact hc.elim (hs c) (ht c)

theorem OneLine.join {sep : String} {parts : List String} (hsep : OneLine sep)
    (h : ∀ p ∈ parts, OneLine p) : OneLine (join sep parts) := by
  induction parts with
  | nil => simp [Text.join, OneLine]
  | cons p parts ih =>
    obtain ⟨hp, hps⟩ := List.forall_mem_cons.1 h
    cases parts with
    | nil => simpa [Text.join] using hp
    | cons q parts =>
      rw [Text.join, String.intercalate_cons_cons]
      exact (hp.append hsep).append (ih hps)

theorem toList_join_cons_cons (sep first next : String) (parts : List String) :
    (join sep (first :: next :: parts)).toList =
      first.toList ++ (sep.toList ++ (join sep (next :: parts)).toList) := by
  rw [join, String.intercalate_cons_cons]
  simp [join]

/-- A joined text is its first part, with nothing behind it or a separator. -/
theorem toList_join_cons (sep part : String) (parts : List String) :
    ∃ behind, (join sep (part :: parts)).toList = part.toList ++ behind ∧
      (behind = [] ∨ ∃ more, behind = sep.toList ++ more) := by
  cases parts with
  | nil => exact ⟨[], by simp [join], .inl rfl⟩
  | cons next parts => exact ⟨_, toList_join_cons_cons sep part next parts, .inr ⟨_, rfl⟩⟩

theorem infix_join {sep part : String} {parts : List String} (h : part ∈ parts) :
    part.toList <:+: (join sep parts).toList := by
  induction parts with
  | nil => simp at h
  | cons first parts ih =>
    cases parts with
    | nil =>
      obtain rfl := List.mem_singleton.1 h
      simp [join]
    | cons next parts =>
      rw [toList_join_cons_cons]
      rcases List.mem_cons.1 h with rfl | h
      · exact (List.prefix_append _ _).isInfix
      · exact (ih h).trans ⟨first.toList ++ sep.toList, [], by simp⟩

/-! ## At a character -/

theorem cutChars_eq_none_iff : cutChars sep cs = none ↔ sep ∉ cs := by
  induction cs with
  | nil => simp [cutChars]
  | cons c cs ih =>
    rw [cutChars]
    split
    · next h => simp [h]
    · next h => simp [ih, Ne.symm h]

theorem cutChars_eq_some_iff : cutChars sep cs = some (a, b) ↔ cs = a ++ sep :: b ∧ sep ∉ a := by
  induction cs generalizing a b with
  | nil => simp [cutChars]
  | cons c cs ih =>
    rw [cutChars]
    split
    · next h =>
      subst h
      cases a with
      | nil => simp
      | cons d a => simp; rintro rfl; simp
    · next h =>
      cases a with
      | nil => simp [h]
      | cons d a =>
        simp only [Option.map_eq_some_iff, Prod.exists, ih, Prod.mk.injEq, List.cons.injEq,
          List.cons_append, List.mem_cons, not_or]
        constructor
        · rintro ⟨a, b, ⟨rfl, ha⟩, ⟨rfl, rfl⟩, rfl⟩
          exact ⟨⟨rfl, rfl⟩, Ne.symm h, ha⟩
        · rintro ⟨⟨rfl, rfl⟩, -, ha⟩
          exact ⟨a, b, ⟨rfl, ha⟩, ⟨rfl, rfl⟩, rfl⟩

theorem cut_of_toList {s : String} (h : s.toList = a ++ sep :: b) (ha : sep ∉ a) :
    cut sep s = (String.ofList a, String.ofList b) := by
  rw [cut, h, cutChars_eq_some_iff.2 ⟨rfl, ha⟩]

theorem cut_of_notMem {s : String} (h : sep ∉ s.toList) : cut sep s = (s, "") := by
  rw [cut, cutChars_eq_none_iff.2 h]

/-- The text before a cut does not have the character, and both texts are parts of the whole. -/
theorem cut_spec (sep : Char) (s : String) :
    sep ∉ (cut sep s).1.toList ∧ (cut sep s).1.toList <+: s.toList ∧
      (cut sep s).2.toList <:+ s.toList := by
  cases h : cutChars sep s.toList with
  | none =>
    rw [cut, h]
    exact ⟨cutChars_eq_none_iff.1 h, List.prefix_rfl, List.nil_suffix⟩
  | some parts =>
    obtain ⟨hs, ha⟩ := cutChars_eq_some_iff.1 h
    rw [cut, h, hs]
    simp only [String.toList_ofList]
    exact ⟨ha, List.prefix_append _ _, List.suffix_cons_iff.2 (.inr List.suffix_rfl) |>.trans
      (List.suffix_append _ _)⟩

/-! ## At a sequence -/

theorem cutSeqChars_eq_none_iff (hp : p ≠ []) : cutSeqChars p cs = none ↔ ¬p <:+: cs := by
  induction cs with
  | nil => simp [cutSeqChars, hp]
  | cons c cs ih =>
    rw [cutSeqChars, List.infix_cons_iff]
    split
    · next h => simp [List.isPrefixOf_iff_prefix.1 h]
    · next h =>
      have apart : ¬p <+: c :: cs := fun e => h (List.isPrefixOf_iff_prefix.2 e)
      simp [ih, apart]

theorem cutSeqChars_eq_some (hp : p ≠ []) (h : cutSeqChars p cs = some (a, b)) :
    cs = a ++ p ++ b ∧ ¬p <:+: a := by
  induction cs generalizing a with
  | nil => simp [cutSeqChars, hp] at h
  | cons c cs ih =>
    rw [cutSeqChars] at h
    split at h
    · next hpre =>
      obtain ⟨rest, hr⟩ := List.isPrefixOf_iff_prefix.1 hpre
      obtain ⟨rfl, rfl⟩ := Prod.mk.inj (Option.some.inj h)
      rw [← hr, List.drop_left]
      simp [hp]
    · next hpre =>
      obtain ⟨⟨a, b⟩, hcut, he⟩ := Option.map_eq_some_iff.1 h
      obtain ⟨rfl, rfl⟩ := Prod.mk.inj he
      obtain ⟨rfl, apart⟩ := ih hcut
      refine ⟨by simp, fun inside => ?_⟩
      rcases List.infix_cons_iff.1 inside with start | inside
      · exact hpre (List.isPrefixOf_iff_prefix.2 (start.trans ⟨p ++ b, by simp⟩))
      · exact apart inside

theorem cutSeq_eq_none_iff {sep s : String} (h : sep ≠ "") :
    cutSeq sep s = none ↔ ¬sep.toList <:+: s.toList := by
  rw [cutSeq, Option.map_eq_none_iff, cutSeqChars_eq_none_iff (by simpa using h)]

/-- A cut is at the first place of the sequence. -/
theorem cutSeq_eq_some {sep s head rest : String} (h : sep ≠ "")
    (hcut : cutSeq sep s = some (head, rest)) :
    s.toList = head.toList ++ sep.toList ++ rest.toList ∧ ¬sep.toList <:+: head.toList := by
  obtain ⟨⟨a, b⟩, chars, he⟩ := Option.map_eq_some_iff.1 hcut
  obtain ⟨rfl, rfl⟩ := Prod.mk.inj he
  simpa using cutSeqChars_eq_some (by simpa using h) chars

/-! ## Parts -/

/-- A part does not have the separator, and it stands in the text. -/
theorem mem_splitOn {part : List Char} (h : part ∈ cs.splitOn sep) : sep ∉ part ∧ part <:+: cs := by
  induction hn : cs.length using Nat.strong_induction_on generalizing cs with
  | _ n ih =>
    by_cases hm : sep ∈ cs
    · obtain ⟨a, b, rfl, ha⟩ := List.eq_append_cons_of_mem hm
      rw [List.splitOn_append_cons_self, List.splitOn_eq_singleton ha, List.singleton_append] at h
      rcases List.mem_cons.1 h with rfl | h
      · exact ⟨ha, (List.prefix_append _ _).isInfix⟩
      · obtain ⟨hp, inside⟩ := ih b.length (by simp at hn; omega) h rfl
        exact ⟨hp, inside.trans ⟨a ++ [sep], [], by simp⟩⟩
    · rw [List.splitOn_eq_singleton hm] at h
      obtain rfl := List.mem_singleton.1 h
      exact ⟨hm, List.infix_rfl⟩

/-- Trimming a text changes its parts no more than trimming each of them does. -/
theorem map_strip_splitOn (h : isBlank sep = false) (cs : List Char) :
    ((stripChars cs).splitOn sep).map stripChars = (cs.splitOn sep).map stripChars := by
  have front (cs : List Char) :
      ((stripStartChars cs).splitOn sep).map stripChars = (cs.splitOn sep).map stripChars := by
    by_cases hm : sep ∈ cs
    · obtain ⟨a, b, rfl, ha⟩ := List.eq_append_cons_of_mem hm
      have ha' : sep ∉ stripStartChars a := fun e => ha ((isSuffix_stripStartChars a).subset e)
      rw [stripStartChars_append_cons h, List.splitOn_append_cons_self,
        List.splitOn_append_cons_self, List.splitOn_eq_singleton ha, List.splitOn_eq_singleton ha']
      simp
    · have hm' : sep ∉ stripStartChars cs := fun e => hm ((isSuffix_stripStartChars cs).subset e)
      rw [List.splitOn_eq_singleton hm, List.splitOn_eq_singleton hm']
      simp
  have back (cs : List Char) :
      ((stripEndChars cs).splitOn sep).map stripChars = (cs.splitOn sep).map stripChars := by
    by_cases hm : sep ∈ cs
    · -- Only the part behind the last separator changes.
      obtain ⟨a, b, hcs, ha⟩ := List.eq_append_cons_of_mem (List.mem_reverse.2 hm)
      obtain rfl : cs = b.reverse ++ sep :: a.reverse := by
        rw [← List.reverse_reverse cs, hcs]
        simp
      have ha' : sep ∉ a.reverse := fun e => ha (List.mem_reverse.1 e)
      have ha'' : sep ∉ stripEndChars a.reverse := fun e =>
        ha' ((isPrefix_stripEndChars _).subset e)
      rw [stripEndChars_append_cons h, List.splitOn_append_cons_self,
        List.splitOn_append_cons_self, List.splitOn_eq_singleton ha',
        List.splitOn_eq_singleton ha'']
      simp
    · have hm' : sep ∉ stripEndChars cs := fun e => hm ((isPrefix_stripEndChars cs).subset e)
      rw [List.splitOn_eq_singleton hm, List.splitOn_eq_singleton hm']
      simp
  exact (back (stripStartChars cs)).trans (front cs)

/-- Parts that are joined by a separator with white space around it come back trimmed. -/
theorem map_strip_splitOn_intercalate {parts : List (List Char)} (h : isBlank sep = false)
    (ha : Blank a) (hb : Blank b) (hne : parts ≠ []) (apart : ∀ part ∈ parts, sep ∉ part) :
    (((a ++ sep :: b).intercalate parts).splitOn sep).map stripChars = parts.map stripChars := by
  have notBlank {cs : List Char} : Blank cs → sep ∉ cs := fun hcs hm => by simp [hcs sep hm] at h
  induction parts with
  | nil => exact absurd rfl hne
  | cons part parts ih =>
    cases parts with
    | nil => simp [List.splitOn_eq_singleton (apart part (by simp))]
    | cons next parts =>
      have first : sep ∉ part ++ a := fun hm => (List.mem_append.1 hm).elim
        (apart part (by simp)) (notBlank ha)
      have trimmed : stripChars (part ++ a) = stripChars part :=
        stripChars_append_right_of_blank ha
      have rest := ih (by simp) fun q hq => apart q (List.mem_cons_of_mem _ hq)
      rw [← map_strip_splitOn h] at rest
      rw [List.intercalate_cons_cons]
      have shape : part ++ (a ++ sep :: b) ++ (a ++ sep :: b).intercalate (next :: parts) =
          (part ++ a) ++ sep :: (b ++ (a ++ sep :: b).intercalate (next :: parts)) := by simp
      have blank : stripChars (b ++ (a ++ sep :: b).intercalate (next :: parts)) =
          stripChars ((a ++ sep :: b).intercalate (next :: parts)) :=
        stripChars_append_left_of_blank hb
      rw [shape, List.splitOn_append_cons_self, List.splitOn_eq_singleton first, List.map_append,
        ← map_strip_splitOn h (b ++ _), blank, rest]
      simp [trimmed]

/-! ## Sequences within parts -/

theorem prefix_of_prefix_append_cons (hc : c ∉ p) (h : p <+: a ++ c :: b) : p <+: a := by
  have upTo : a ++ [c] <+: a ++ c :: b := ⟨b, by simp⟩
  rcases List.prefix_or_prefix_of_prefix h upTo with inside | across
  · rcases List.prefix_concat_iff.1 inside with rfl | inside
    · simp at hc
    · exact inside
  · exact absurd (across.subset (by simp)) hc

/-- What stands in a text does not stand across a character that it does not have. -/
theorem infix_of_infix_append_cons (hc : c ∉ p) (h : p <:+: a ++ c :: b) : p <:+: a ∨ p <:+: b := by
  induction a with
  | nil =>
    rcases List.infix_cons_iff.1 h with start | inside
    · exact .inl (prefix_of_prefix_append_cons (a := []) hc start).isInfix
    · exact .inr inside
  | cons d a ih =>
    rcases List.infix_cons_iff.1 h with start | inside
    · exact .inl (prefix_of_prefix_append_cons (a := d :: a) hc start).isInfix
    · exact (ih inside).imp_left fun h => List.infix_cons_iff.2 (.inr h)

/-- What stands in joined parts stands in one of them, if it has no character of the separator. -/
theorem infix_of_infix_join {sep : String} {parts : List String} (hp : p ≠ []) (hsep : sep ≠ "")
    (apart : ∀ c ∈ sep.toList, c ∉ p) (h : p <:+: (join sep parts).toList) :
    ∃ part ∈ parts, p <:+: part.toList := by
  have across (ss a b : List Char) (hne : ss ≠ []) (hss : ∀ c ∈ ss, c ∉ p)
      (h : p <:+: a ++ (ss ++ b)) : p <:+: a ∨ p <:+: b := by
    induction ss generalizing a with
    | nil => exact absurd rfl hne
    | cons c ss ih =>
      obtain ⟨hc, hss⟩ := List.forall_mem_cons.1 hss
      refine (infix_of_infix_append_cons hc h).imp_right fun h => ?_
      by_cases last : ss = []
      · simpa [last] using h
      · exact (ih [] last hss (by simpa using h)).resolve_left fun h => hp (List.infix_nil.1 h)
  induction parts with
  | nil => exact absurd (List.infix_nil.1 h) hp
  | cons first parts ih =>
    cases parts with
    | nil => exact ⟨first, by simp, by simpa [join] using h⟩
    | cons next parts =>
      rw [toList_join_cons_cons] at h
      rcases across _ _ _ (by simpa using hsep) apart h with inside | inside
      · exact ⟨first, by simp, inside⟩
      · obtain ⟨part, hm, inside⟩ := ih inside
        exact ⟨part, List.mem_cons_of_mem _ hm, inside⟩

end ArchModel.Text
