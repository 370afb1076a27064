import ArchModel.Proofs.Tag.Arguments
import ArchModel.Proofs.Tag.Reader

/-!
# The lines of a written tag

What is read of a tag that was written: the line of the arguments, if any, then for each parameter
the line of its name and the lines of its value.

* `Tag.paramLines` are the lines of one parameter, with one equation for each form of a value
  (`paramLines_line`, `paramLines_pieces`, `paramLines_list`, `paramLines_block`).
* `Tag.contentLines_renderLines`: the lines of all parameters follow that of the arguments.
* `Schema.render?_of_types`: a tag is written as its values have it, if these have the declared
  types.
-/

namespace ArchModel

open Text

/-! ## Headers -/

theorem header_space (name value : String) :
    "- " ++ name ++ ": " ++ value = "- " ++ name ++ ":" ++ (" " ++ value) := by
  rw [← String.toList_inj]
  simp

theorem strip_space (value : String) : strip (" " ++ value) = strip value := by
  rw [← String.toList_inj]
  simpa using stripChars_append_left_of_blank (a := [' ']) (by decide)

theorem strip_indent (value : String) : strip ("  " ++ value) = strip value := by
  rw [← String.toList_inj]
  simpa using stripChars_append_left_of_blank (a := [' ', ' ']) (by decide)

theorem strip_header_ne (name : String) : strip ("- " ++ name ++ ":") ≠ "" := by
  intro h
  have := startsWith_strip_header name ""
  rw [String.append_empty, h] at this
  exact absurd this (by decide)

theorem contentLines_header {name tail : String} (hn : OneLine name) (ht : OneLine tail) :
    Schema.contentLines ("- " ++ name ++ ":" ++ tail) = [strip ("- " ++ name ++ ":" ++ tail)] := by
  have line : OneLine ("- " ++ name ++ ":" ++ tail) :=
    ((OneLine.append (by decide) hn).append (by decide)).append ht
  rw [Schema.contentLines_of_oneLine line, if_neg]
  intro h
  have := toList_strip_header name tail
  rw [h] at this
  cases this

/-! ## Lines of a value -/

theorem contentLines_piece {p : String} (h : IsPiece p) :
    Schema.contentLines ("  " ++ p) = [p] := by
  obtain ⟨hne, trimmed, oneLine, -⟩ := h
  rw [Schema.contentLines_of_oneLine (OneLine.append (by decide) oneLine), strip_indent, trimmed,
    if_neg hne]

theorem toList_strip_entry {key : String} (h : Trimmed key) (item : String) :
    (strip ("  " ++ key ++ ": " ++ item)).toList =
      key.toList ++ ':' :: stripEndChars (' ' :: item.toList) := by
  have chars : ("  " ++ key ++ ": " ++ item).toList =
      ([' ', ' '] ++ key.toList) ++ ':' :: (' ' :: item.toList) := by simp
  rw [toList_strip, chars, stripChars_append_cons (by decide),
    stripStartChars_append_of_blank (by decide), h.stripStartChars_eq]

theorem startsWith_strip_entry {key item : String} (h : IsEntry key item) :
    startsWith "-" (strip ("  " ++ key ++ ": " ++ item)) = false := by
  refine Bool.eq_false_iff.2 fun dash => h.noDash ?_
  obtain ⟨rest, hr⟩ := startsWith_iff.1 dash
  rw [toList_strip_entry h.trimmed.1] at hr
  cases hk : key.toList with
  | nil =>
    rw [hk] at hr
    exact absurd (List.cons.inj hr).1 (by decide)
  | cons c cs =>
    rw [hk] at hr
    exact congrArg some (List.cons.inj hr).1.symm

theorem contentLines_entry {key item : String} (h : IsEntry key item) :
    Schema.contentLines ("  " ++ key ++ ": " ++ item) = [strip ("  " ++ key ++ ": " ++ item)] := by
  have line : OneLine ("  " ++ key ++ ": " ++ item) :=
    ((OneLine.append (by decide) h.oneLine.1).append (by decide)).append h.oneLine.2
  rw [Schema.contentLines_of_oneLine line, if_neg]
  intro hb
  have := toList_strip_entry h.trimmed.1 item
  rw [hb] at this
  simp at this

/-! ## Parameters -/

namespace Tag

variable {name : String}

/-- The lines of a parameter as they are read. -/
def paramLines (name : String) (value : ParamValue) : List String :=
  (renderParam name value).flatMap Schema.contentLines

theorem paramLines_line (hn : OneLine name) {value : String} (h : OneLine value) :
    paramLines name (.text value) = [strip ("- " ++ name ++ ":" ++ (" " ++ value))] := by
  have single : containsChar '\n' value = false := by
    refine Bool.eq_false_iff.2 fun hm => ?_
    have := h _ (containsChar_iff.1 hm)
    simp [isLineBreak] at this
  rw [paramLines, renderParam, single, if_neg (by decide), List.flatMap_cons, List.flatMap_nil,
    List.append_nil, header_space, contentLines_header hn (OneLine.append (by decide) h)]

theorem paramLines_pieces (hn : OneLine name) {pieces : List String} (two : 2 ≤ pieces.length)
    (h : ∀ p ∈ pieces, IsPiece p) :
    paramLines name (.text (join "\n" pieces)) =
      strip ("- " ++ name ++ ":" ++ (" " ++ multiline)) :: (pieces ++ [multiline]) := by
  have several : containsChar '\n' (join "\n" pieces) = true := by
    match pieces, two with
    | p :: q :: pieces, _ =>
      rw [containsChar_iff, toList_join_cons_cons]
      simp
  have inner : (pieces.map (fun p => "  " ++ p)).flatMap Schema.contentLines = pieces := by
    rw [List.flatMap_map, List.flatMap_congr fun p hp => contentLines_piece (h p hp)]
    simp
  have last : Schema.contentLines ("  " ++ multiline) = [multiline] := by decide
  rw [paramLines, renderParam, several, if_pos rfl,
    lines_join fun p hp => ⟨(h p hp).2.2.1, (h p hp).1⟩, List.cons_append, List.flatMap_cons,
    List.flatMap_append, inner, List.flatMap_cons, List.flatMap_nil, last, header_space,
    contentLines_header hn (by decide)]
  rfl

theorem paramLines_list (name : String) (items : List String) :
    paramLines name (.list items) =
      Schema.contentLines ("- " ++ name ++ ":" ++ (" " ++ join ", " items)) := by
  rw [paramLines, renderParam, List.flatMap_cons, List.flatMap_nil, List.append_nil, header_space]

theorem paramLines_block (hn : OneLine name) {entries : Entries String String}
    (h : ∀ e ∈ entries.toList, IsEntry e.1 e.2) :
    paramLines name (.block entries) = strip ("- " ++ name ++ ":" ++ "") ::
      entries.toList.map fun e => strip ("  " ++ e.1 ++ ": " ++ e.2) := by
  have first : Schema.contentLines ("- " ++ name ++ ":") = [strip ("- " ++ name ++ ":" ++ "")] := by
    simpa using contentLines_header hn (by decide : OneLine "")
  rw [paramLines, renderParam, List.flatMap_cons, List.flatMap_map,
    List.flatMap_congr fun e he => contentLines_entry (h e he), first, List.map_eq_flatMap]
  rfl

/-- The lines of a parameter begin with a dash. -/
theorem startsWith_paramLines {name : String} (hn : OneLine name) (value : ParamValue) :
    ∃ l ls, paramLines name value = l :: ls ∧
      startsWith "-" l = true := by
  have first (tail : String) (ls : List String) : ∃ l more,
      (("- " ++ name ++ ":" ++ tail) :: ls).flatMap Schema.contentLines = l :: more ∧
        startsWith "-" l = true := by
    have start : OneLine ("- " ++ name ++ ":") := (OneLine.append (by decide) hn).append (by decide)
    obtain ⟨more, rest, read, -⟩ := Schema.contentLines_append start (strip_header_ne name) tail
    rw [List.flatMap_cons, read]
    exact ⟨_, _, rfl, startsWith_strip_header name more⟩
  cases value with
  | text value =>
    rw [paramLines, renderParam]
    split
    · rw [List.cons_append, header_space]
      exact first _ _
    · rw [header_space]
      exact first _ _
  | list items =>
    rw [paramLines, renderParam, header_space]
    exact first _ _
  | block entries =>
    have none : "- " ++ name ++ ":" = "- " ++ name ++ ":" ++ "" := by simp
    rw [paramLines, renderParam, none]
    exact first _ _

/-! ## Tags -/

/-- The lines of a tag whose values have the declared types. -/
def renderLines (t : Tag) : List String :=
  renderArgs t.args ++ (t.params.toList.map fun p => renderParam p.1 p.2).flatten

/-- What is read of a tag: the line of the arguments, if any, and the lines of the parameters. -/
theorem contentLines_renderLines {t : Tag} (h : ∀ a ∈ t.args, OneLine a) :
    Schema.contentLines (join "\n" t.renderLines) =
      [strip (join " | " (trimArgs t.args))].filter (· ≠ "") ++
        t.params.toList.flatMap fun p => paramLines p.1 p.2 := by
  rw [Schema.contentLines_join, renderLines, List.flatMap_append, contentLines_renderArgs h,
    List.flatten_eq_flatMap, List.flatMap_assoc, List.flatMap_map]
  rfl

/-- The lines of parameters begin with a dash. -/
theorem startsWith_head?_paramLines {params : List (String × ParamValue)}
    (names : ∀ p ∈ params, OneLine p.1) :
    ∀ l ∈ (params.flatMap fun p => paramLines p.1 p.2).head?,
      startsWith "-" l = true := by
  intro l hl
  cases params with
  | nil => simp at hl
  | cons p params =>
    obtain ⟨first, more, begins, dash⟩ := startsWith_paramLines (names p (by simp)) p.2
    rw [List.flatMap_cons, begins] at hl
    obtain rfl : first = l := by simpa using hl
    exact dash

end Tag

namespace Schema

variable {schema : Schema} {t : Tag}

/-- A tag whose values have the declared types is written. -/
theorem render?_of_types (h : ∀ name value, t.params.get? name = some value →
    schema.params.get? name = some value.type) :
    schema.render? t = some (join "\n" t.renderLines) := by
  have one {name : String} {value : ParamValue} (declared : schema.params.get? name =
      some value.type) : schema.renderParam? name value = some (Tag.renderParam name value) := by
    rw [renderParam?, declared]
    cases value <;> rfl
  have each (params : List (String × ParamValue))
      (types : ∀ p ∈ params, schema.params.get? p.1 = some p.2.type) :
      params.mapM (fun p => schema.renderParam? p.1 p.2) =
        some (params.map fun p => Tag.renderParam p.1 p.2) := by
    induction params with
    | nil => rfl
    | cons p params ih =>
      obtain ⟨declared, types⟩ := List.forall_mem_cons.1 types
      rw [List.mapM_cons, one declared, ih types]
      rfl
  rw [render?, each _ fun p hp => h p.1 p.2 (Entries.get?_eq_some_iff.2 hp)]
  rfl

end Schema

end ArchModel
