import ArchModel.Proofs.Tag.Canonical
import ArchModel.Proofs.Tag.Content

/-!
# The line of the arguments

* `trimArgs_eq_self_iff`: writing leaves out arguments at the end only if the last one is empty.
* `contentLines_renderArgs`: the arguments are read on one line, if on any.
* `readArgText_join`: the line is read as the arguments, each trimmed and out of its quotes.
* `Schema.parse_of_content`: a content is read by its lines up to the first dash, and those from
  there on.
-/

namespace ArchModel

open Text

namespace Tag

theorem trimArgs_eq_self_iff {args : List String} :
    trimArgs args = args ↔ args.getLast? ≠ some "" := by
  have drop : trimArgs args = args.rdropWhile (· = "") := rfl
  rw [drop, List.rdropWhile_eq_self_iff]
  cases args using List.reverseRecOn with
  | nil => simp
  | append_singleton args a => simp

theorem isPrefix_trimArgs (args : List String) : trimArgs args <+: args :=
  List.rdropWhile_prefix _ args

/-- The line of the arguments as it is read. -/
theorem contentLines_renderArgs {args : List String} (h : ∀ a ∈ args, OneLine a) :
    (renderArgs args).flatMap Schema.contentLines =
      [strip (join " | " (trimArgs args))].filter (· ≠ "") := by
  have line : OneLine (join " | " (trimArgs args)) :=
    OneLine.join (by decide) fun a ha => h a ((isPrefix_trimArgs args).subset ha)
  cases empty : (trimArgs args).isEmpty with
  | true =>
    rw [renderArgs, empty, List.isEmpty_iff.1 empty]
    decide
  | false =>
    rw [renderArgs, empty, if_neg (by decide), List.flatMap_cons, List.flatMap_nil,
      List.append_nil, Schema.contentLines_of_oneLine line]
    by_cases hb : strip (join " | " (trimArgs args)) = "" <;> simp [hb]

end Tag

namespace Schema

/-- The line of the arguments is read as the arguments, each trimmed and out of its quotes. -/
theorem readArgText_join {args : List String} (hne : args ≠ []) (h : ∀ a ∈ args, '|' ∉ a.toList)
    (kept : strip (join " | " args) ≠ "") :
    readArgText (strip (join " | " args)) = args.map fun a => unquote (strip a) := by
  have parts : (((stripChars (join " | " args).toList).splitOn '|').map stripChars) =
      (args.map String.toList).map stripChars := by
    rw [map_strip_splitOn (by decide), toList_join]
    exact map_strip_splitOn_intercalate (a := [' ']) (b := [' ']) (by decide) (by decide)
      (by decide) (by simpa using hne) (by simpa using h)
  have read (ls : List (List Char)) :
      (ls.map String.ofList).map (fun part => unquote (strip part)) =
        (ls.map stripChars).map fun part => unquote (String.ofList part) := by
    simp [strip]
  rw [readArgText, trimmed_strip, if_neg kept, split, toList_strip, read, parts]
  simp [strip]

/-- A content is read by its lines up to the first dash, and those from there on. -/
theorem parse_of_content {schema : Schema} {content : String} {argLines paramLines : List String}
    (read : contentLines content = argLines ++ paramLines)
    (arg : ∀ l ∈ argLines, startsWith "-" l = false)
    (dash : ∀ l ∈ paramLines.head?, startsWith "-" l = true) :
    schema.parse content = do
      schema.checkArgs (readArgText (join " " argLines))
      let params ← schema.parseParams paramLines
      return { args := readArgText (join " " argLines), params } := by
  have before : (argLines ++ paramLines).takeWhile (fun l => !startsWith "-" l) = argLines := by
    rw [List.takeWhile_append_of_pos (by simpa using arg)]
    cases paramLines with
    | nil => simp
    | cons l ls => simp [dash l rfl]
  have behind : (argLines ++ paramLines).dropWhile (fun l => !startsWith "-" l) = paramLines := by
    rw [List.dropWhile_append_of_pos (by simpa using arg)]
    cases paramLines with
    | nil => simp
    | cons l ls => simp [dash l rfl]
  rw [parse, read]
  simp only [before, behind]

end Schema

end ArchModel
