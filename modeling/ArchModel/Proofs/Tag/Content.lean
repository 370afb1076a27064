import ArchModel.Proofs.Text.Lines
import ArchModel.Tag.Render

/-!
# The lines of a content

A content is read by its lines that are not blank, each trimmed.

* `contentLines_join`: texts under each other are read one after the other.
* `contentLines_of_oneLine`: a text of one line is read as that line.
* `contentLines_append`: the first line that is read goes on from the beginning of the content.
* `Schema.mem_contentLines`: what is read of a line is not empty, trimmed and on one line.
-/

namespace ArchModel.Schema

open Text

theorem map_toList_contentLines (content : String) :
    (contentLines content).map String.toList = contentChars (linesFrom [] content.toList) := by
  have strings (ls : List (List Char)) :
      (((ls.map String.ofList).map strip).filter (· ≠ "")).map String.toList = contentChars ls := by
    induction ls with
    | nil => rfl
    | cons l ls ih =>
      have same : strip (String.ofList l) = "" ↔ stripChars l = [] := by
        rw [← String.toList_inj]
        simp
      rw [contentChars_cons, ← ih]
      by_cases h : stripChars l = [] <;> simp [contentChars, h, same]
  exact strings _

/-- What stands on the two sides of a line feed is read on its own. -/
theorem contentLines_newline (a b : String) :
    contentLines (a ++ "\n" ++ b) = contentLines a ++ contentLines b := by
  have whole : (a ++ "\n" ++ b).toList = a.toList ++ '\n' :: b.toList := by simp
  refine List.map_injective_iff.2 (fun s t h => String.toList_inj.1 h) ?_
  rw [List.map_append, map_toList_contentLines, map_toList_contentLines, map_toList_contentLines,
    whole, contentChars_append]

/-- Texts under each other are read one after the other. -/
theorem contentLines_join (texts : List String) :
    contentLines (join "\n" texts) = texts.flatMap contentLines := by
  induction texts with
  | nil => rfl
  | cons s texts ih =>
    cases texts with
    | nil => simp [join]
    | cons t texts =>
      rw [join, String.intercalate_cons_cons, contentLines_newline, List.flatMap_cons]
      exact congrArg _ ih

theorem contentLines_of_oneLine {s : String} (h : OneLine s) :
    contentLines s = if strip s = "" then [] else [strip s] := by
  rw [contentLines, lines_of_oneLine h]
  split
  · next hs => simp [hs, strip, stripChars, stripStartChars, stripEndChars]
  · by_cases hb : strip s = "" <;> simp [hb]

/-- The lines of a content that goes on from a line that is begun. -/
theorem contentLines_append {start : String} (h : OneLine start) (hne : strip start ≠ "")
    (s : String) :
    ∃ more ls, contentLines (start ++ s) = strip (start ++ more) :: ls ∧
      more.toList <+: s.toList ∧ OneLine more ∧ ∀ l ∈ ls, l.toList <:+: s.toList := by
  have hs : start ≠ "" := by
    rintro rfl
    exact hne (by decide)
  obtain ⟨more, ls, read, hm, hline, hl⟩ := lines_append h hs s
  have kept : strip (start ++ more) ≠ "" := fun e =>
    hne (strip_eq_empty_iff.2 fun c hc => strip_eq_empty_iff.1 e c (by simp [hc]))
  refine ⟨more, (ls.map strip).filter (· ≠ ""), ?_, hm, hline, fun l hl' => ?_⟩
  · rw [contentLines, read, List.map_cons, List.filter_cons_of_pos (by simpa using kept)]
  · obtain ⟨l, hmem, rfl⟩ := List.mem_map.1 (List.mem_filter.1 hl').1
    rw [toList_strip]
    exact (isInfix_stripChars _).trans (hl l hmem)

theorem mem_contentLines {line content : String} (h : line ∈ contentLines content) :
    line ≠ "" ∧ Trimmed line ∧ OneLine line := by
  obtain ⟨hm, hne⟩ := List.mem_filter.1 h
  obtain ⟨l, hl, rfl⟩ := List.mem_map.1 hm
  exact ⟨by simpa using hne, trimmed_strip l, (oneLine_of_mem_lines hl).strip⟩

end ArchModel.Schema
