import ArchModel.Proofs.Text.Cut

/-!
# The lines of a text

* `oneLine_of_mem_lines`: a line has no line break.
* `lines_join`: lines that are written one under the other are the lines of what was written.
* `lines_append`: the first line of a text goes on from the beginning of the text.
* `contentChars_append`: what a line feed divides is read line by line on its own, blank lines
  apart.
-/

namespace ArchModel.Text

variable {current a b cs l : List Char}

/-! ## Lines from within a line -/

theorem linesFrom_nil (current : List Char) :
    linesFrom current [] = if current.isEmpty then [] else [current.reverse] := rfl

theorem linesFrom_newline (current cs : List Char) :
    linesFrom current ('\n' :: cs) = current.reverse :: linesFrom [] cs := rfl

theorem linesFrom_append_of_oneLine (h : ∀ c ∈ a, isLineBreak c = false) (current b : List Char) :
    linesFrom current (a ++ b) = linesFrom (a.reverse ++ current) b := by
  induction a generalizing current with
  | nil => rfl
  | cons c a ih =>
    obtain ⟨hc, ha⟩ := List.forall_mem_cons.1 h
    rw [List.cons_append, linesFrom, if_neg (by simp [hc]), ih ha]
    · simp
    · rintro rest rfl
      simp [isLineBreak] at hc

theorem linesFrom_oneLine (hcur : ∀ c ∈ current, isLineBreak c = false)
    (h : l ∈ linesFrom current cs) : ∀ c ∈ l, isLineBreak c = false := by
  fun_induction linesFrom current cs with
  | case1 current => simp at h
  | case2 current hne =>
    obtain rfl := List.mem_singleton.1 h
    simpa using hcur
  | case3 current cs ih =>
    rcases List.mem_cons.1 h with rfl | h
    · simpa using hcur
    · exact ih (by simp) h
  | case4 current c cs _ hc ih =>
    rcases List.mem_cons.1 h with rfl | h
    · simpa using hcur
    · exact ih (by simp) h
  | case5 current c cs _ hc ih =>
    exact ih (List.forall_mem_cons.2 ⟨by simpa using hc, hcur⟩) h

theorem infix_of_mem_linesFrom (h : l ∈ linesFrom current cs) : l <:+: current.reverse ++ cs := by
  fun_induction linesFrom current cs with
  | case1 current => simp at h
  | case2 current hne =>
    obtain rfl := List.mem_singleton.1 h
    simp
  | case3 current cs ih =>
    rcases List.mem_cons.1 h with rfl | h
    · exact List.infix_append_left
    · exact (ih h).trans ⟨current.reverse ++ ['\r', '\n'], [], by simp⟩
  | case4 current c cs _ hc ih =>
    rcases List.mem_cons.1 h with rfl | h
    · exact List.infix_append_left
    · exact (ih h).trans ⟨current.reverse ++ [c], [], by simp⟩
  | case5 current c cs _ hc ih =>
    simpa using ih h

/-- A line that is begun goes on up to the first line break, and the others stand behind it. -/
theorem linesFrom_of_ne_nil (hne : current ≠ []) (cs : List Char) :
    ∃ more ls, linesFrom current cs = (current.reverse ++ more) :: ls ∧ more <+: cs ∧
      ∀ l ∈ ls, l <:+: cs := by
  fun_induction linesFrom current cs with
  | case1 current hnil => exact absurd (List.isEmpty_iff.1 hnil) hne
  | case2 current => exact ⟨[], [], by simp⟩
  | case3 current cs ih =>
    refine ⟨[], linesFrom [] cs, by simp, List.nil_prefix, fun l hl => ?_⟩
    exact (infix_of_mem_linesFrom hl).trans ⟨['\r', '\n'], [], by simp⟩
  | case4 current c cs _ hc ih =>
    refine ⟨[], linesFrom [] cs, by simp, List.nil_prefix, fun l hl => ?_⟩
    exact (infix_of_mem_linesFrom hl).trans ⟨[c], [], by simp⟩
  | case5 current c cs _ hc ih =>
    obtain ⟨more, ls, he, hm, hl⟩ := ih (by simp)
    refine ⟨c :: more, ls, by simpa using he, List.cons_prefix_cons.2 ⟨rfl, hm⟩, fun l h => ?_⟩
    exact (hl l h).trans (List.suffix_cons c cs).isInfix

/-! ## Lines of a text -/

theorem oneLine_of_mem_lines {line s : String} (h : line ∈ lines s) : OneLine line := by
  obtain ⟨l, hl, rfl⟩ := List.mem_map.1 h
  simpa [OneLine] using linesFrom_oneLine (by simp) hl

theorem lines_of_oneLine {s : String} (h : OneLine s) : lines s = if s = "" then [] else [s] := by
  have read := linesFrom_append_of_oneLine h [] []
  rw [List.append_nil, List.append_nil, linesFrom_nil] at read
  rw [lines, read]
  by_cases hs : s = ""
  · simp [hs]
  · have hne : s.toList ≠ [] := fun e => hs (String.toList_eq_nil_iff.1 e)
    simp [hs, hne]

theorem lines_append_newline {s : String} (h : OneLine s) (rest : String) :
    lines (s ++ "\n" ++ rest) = s :: lines rest := by
  have whole : (s ++ "\n" ++ rest).toList = s.toList ++ '\n' :: rest.toList := by simp
  rw [lines, whole, linesFrom_append_of_oneLine h, linesFrom_newline]
  simp [lines]

/-- Lines that are written one under the other are the lines of what was written. -/
theorem lines_join {parts : List String} (h : ∀ p ∈ parts, OneLine p ∧ p ≠ "") :
    lines (join "\n" parts) = parts := by
  induction parts with
  | nil => rfl
  | cons p parts ih =>
    obtain ⟨⟨line, hne⟩, hps⟩ := List.forall_mem_cons.1 h
    cases parts with
    | nil => simpa [join, hne] using lines_of_oneLine line
    | cons q parts =>
      rw [join, String.intercalate_cons_cons, lines_append_newline line]
      exact congrArg (p :: ·) (ih hps)

/-- The first line of a text goes on from what the text begins with. -/
theorem lines_append {start : String} (h : OneLine start) (hne : start ≠ "") (s : String) :
    ∃ more ls, lines (start ++ s) = (start ++ more) :: ls ∧ more.toList <+: s.toList ∧
      OneLine more ∧ ∀ l ∈ ls, l.toList <:+: s.toList := by
  have hrev : start.toList.reverse ≠ [] := by simpa using hne
  obtain ⟨more, ls, read, hm, hl⟩ := linesFrom_of_ne_nil hrev s.toList
  have whole : linesFrom [] (start ++ s).toList = (start.toList ++ more) :: ls := by
    rw [String.toList_append, linesFrom_append_of_oneLine h, List.append_nil, read,
      List.reverse_reverse]
  have mem : start.toList ++ more ∈ linesFrom [] (start ++ s).toList :=
    whole ▸ List.mem_cons_self
  have first : ∀ c ∈ start.toList ++ more, isLineBreak c = false :=
    linesFrom_oneLine (by simp) mem
  refine ⟨String.ofList more, ls.map String.ofList, ?_, by simpa using hm, ?_, ?_⟩
  · rw [lines, whole]
    simp
  · intro c hc
    exact first c (List.mem_append_right _ (by simpa using hc))
  · simpa using hl

/-! ## Content -/

/-- The lines that are not blank, trimmed. -/
def contentChars (ls : List (List Char)) : List (List Char) :=
  (ls.map stripChars).filter (· ≠ [])

theorem contentChars_cons (l : List Char) (ls : List (List Char)) :
    contentChars (l :: ls) = contentChars [l] ++ contentChars ls := by
  simp [contentChars, List.filter_cons]
  split <;> rfl

/-- What a line feed divides is read line by line on its own, blank lines apart. -/
theorem contentChars_append (current a b : List Char) :
    contentChars (linesFrom current (a ++ '\n' :: b)) =
      contentChars (linesFrom current a) ++ contentChars (linesFrom [] b) := by
  fun_induction linesFrom current a with
  | case1 current hnil =>
    rw [List.isEmpty_iff.1 hnil, List.nil_append, linesFrom_newline]
    rfl
  | case2 current => rw [List.nil_append, linesFrom_newline, contentChars_cons]
  | case3 current cs ih =>
    rw [List.cons_append, List.cons_append, linesFrom, contentChars_cons, ih, ← List.append_assoc,
      ← contentChars_cons]
  | case4 current c cs apart hc ih =>
    by_cases split : c = '\r' ∧ cs = []
    · -- The line feed belongs to the break that ends the line.
      obtain ⟨rfl, rfl⟩ := split
      have pair : linesFrom current ('\r' :: '\n' :: b) = current.reverse :: linesFrom [] b := rfl
      have none : contentChars (linesFrom [] []) = [] := rfl
      rw [List.cons_append, List.nil_append, pair, contentChars_cons,
        contentChars_cons _ (linesFrom _ _), none, List.append_nil]
    · have apart' : ∀ rest, c = '\r' → cs ++ '\n' :: b = '\n' :: rest → False := by
        rintro rest hr he
        cases cs with
        | nil => exact split ⟨hr, rfl⟩
        | cons d cs => exact apart cs hr (by rw [(List.cons.inj he).1])
      rw [List.cons_append, linesFrom.eq_3 _ _ _ apart', if_pos hc, contentChars_cons, ih,
        ← List.append_assoc, ← contentChars_cons]
  | case5 current c cs apart hc ih =>
    have apart' : ∀ rest, c = '\r' → cs ++ '\n' :: b = '\n' :: rest → False := by
      rintro rest rfl
      simp [isLineBreak] at hc
    rw [List.cons_append, linesFrom.eq_3 _ _ _ apart', if_neg hc, ih]

end ArchModel.Text
