import ArchModel.Proofs.Tag.Written

/-!
# Reading what was written

* `ParamReader.read_param`: the lines of a canonical parameter are read as this parameter, after
  whatever was read before.
* **`Schema.parse_render`**: every canonical tag has a content, which is read as this tag.
-/

namespace ArchModel

open Text

/-! ## Lists -/

theorem listItems_strip (value : String) : listItems (strip value) = listItems value := by
  have parts (s : String) : (split ',' s).map strip =
      ((s.toList.splitOn ',').map stripChars).map String.ofList := by
    simp [split, strip]
  rw [listItems, listItems, parts, parts, toList_strip, map_strip_splitOn (by decide)]

theorem listItems_join {items : List String} (h : ∀ i ∈ items, IsItem i) :
    listItems (join ", " items) = items := by
  by_cases hne : items = []
  · subst hne
    decide
  · have parts : (((join ", " items).toList.splitOn ',').map stripChars) =
        (items.map String.toList).map stripChars := by
      rw [toList_join]
      exact map_strip_splitOn_intercalate (a := []) (b := [' ']) (by decide) (by decide)
        (by decide) (by simpa using hne) (by simpa using fun i hi => (h i hi).2.2)
    have trimmed : (items.map String.toList).map stripChars = items.map String.toList := by
      rw [List.map_map]
      exact List.map_congr_left fun i hi => trimmed_iff_toList.1 (h i hi).2.1
    have read : (split ',' (join ", " items)).map strip =
        (((join ", " items).toList.splitOn ',').map stripChars).map String.ofList := by
      simp [split, strip]
    have back : (items.map String.toList).map String.ofList = items := by simp
    rw [listItems, read, parts, trimmed, back, List.filter_eq_self]
    simpa using fun i hi => (h i hi).1

/-- A list begins with three quotes only if its first item does. -/
theorem startsWith_strip_join {items : List String} (h : ∀ i ∈ items, IsItem i)
    (start : ∀ i ∈ items.head?, startsWith multiline i = false) :
    startsWith multiline (strip (join ", " items)) = false := by
  refine Bool.eq_false_iff.2 fun quotes => ?_
  cases items with
  | nil => exact absurd quotes (by decide)
  | cons i items =>
    obtain ⟨c, cs, hi, hc⟩ := (h i (by simp)).2.1.exists_cons (h i (by simp)).1
    obtain ⟨rest, whole, last⟩ := toList_join_cons ", " i items
    have kept : stripStartChars (i.toList ++ rest) = i.toList ++ rest := by
      rw [hi, List.cons_append, stripStartChars_cons hc]
    have inside : multiline.toList <+: i.toList ++ rest := by
      have := startsWith_iff.1 quotes
      rw [toList_strip, whole, stripChars, kept] at this
      exact this.trans (isPrefix_stripEndChars _)
    have begins : multiline.toList <+: i.toList := by
      rcases last with rfl | ⟨more, rfl⟩
      · simpa using inside
      · exact prefix_of_prefix_append_cons (by decide) inside
    have := start i rfl
    rw [startsWith_iff.2 begins] at this
    cases this

/-! ## Parameters -/

namespace ParamReader

variable {schema : Schema} {r : ParamReader} {ps : Entries String ParamValue} {name : String}
  {type : ValueType}

theorem step_header (settled : r.finish = .ok ps) (hn : IsParamName name)
    (declared : schema.params.get? name = some type) (tail : String) :
    step schema r (strip ("- " ++ name ++ ":" ++ tail)) = assign ps name type (strip tail) := by
  obtain ⟨named, trimmed, colon, -⟩ := hn
  rw [step_of_dash settled (startsWith_strip_header name tail), openLine_eq,
    headerOf?_strip colon, trimmed]
  simp only [if_neg named, declared]

theorem step_entry {key item : String} (h : IsEntry key item) (known : Entries String String) :
    step schema { params := ps, opened := .block name known }
        (strip ("  " ++ key ++ ": " ++ item)) =
      .ok { params := ps, opened := .block name (known.insert key item) } := by
  have line := toList_strip_entry h.trimmed.1 item
  have colon : containsChar ':' (strip ("  " ++ key ++ ": " ++ item)) = true :=
    containsChar_iff.2 (by simp [line])
  have back : strip (String.ofList (stripEndChars (' ' :: item.toList))) = item := by
    calc strip (String.ofList (stripEndChars (' ' :: item.toList)))
      _ = strip (" " ++ item) := by rw [← String.toList_inj]; simp
      _ = strip item := strip_space item
      _ = item := h.trimmed.2
  simp only [step, startsWith_strip_entry h, colon, cut_of_toList line h.noColon, Bool.not_false,
    Bool.and_self, if_true, String.ofList_toList, show strip key = key from h.trimmed.1, back]
  rfl

/-- The lines of a block are read as its entries. -/
theorem read_entries {entries : List (String × String)} (h : ∀ e ∈ entries, IsEntry e.1 e.2)
    (known : Entries String String) :
    (entries.map fun e => strip ("  " ++ e.1 ++ ": " ++ e.2)).foldlM (step schema)
        { params := ps, opened := .block name known } =
      let all := entries.foldl (fun known e => known.insert e.1 e.2) known
      .ok { params := ps, opened := .block name all } := by
  induction entries generalizing known with
  | nil => rfl
  | cons e entries ih =>
    obtain ⟨he, hes⟩ := List.forall_mem_cons.1 h
    rw [List.map_cons, List.foldlM_cons, step_entry he]
    exact ih hes _

/-- A value on one line is read off this line. -/
theorem step_plain (settled : r.finish = .ok ps) (hn : IsParamName name)
    (declared : schema.params.get? name = some type) (notBlock : type ≠ .block) {value : String}
    (start : startsWith multiline (strip value) = false) {v : ParamValue}
    (conv : Schema.convert name type (strip value) = .ok v) :
    step schema r (strip ("- " ++ name ++ ":" ++ (" " ++ value))) =
      .ok { params := ps.insert name v } := by
  rw [step_header settled hn declared, strip_space]
  simp only [assign, start, conv]
  simp [notBlock, bind, Except.bind, pure, Except.pure]

/-- A text of several pieces is read off the lines between the delimiters. -/
theorem read_lines (settled : r.finish = .ok ps) (hn : IsParamName name)
    (declared : schema.params.get? name = some .text) {pieces : List String}
    (h : ∀ p ∈ pieces, IsPiece p) :
    (strip ("- " ++ name ++ ":" ++ (" " ++ multiline)) :: (pieces ++ [multiline])).foldlM
        (step schema) r = .ok { params := ps.insert name (.text (join "\n" pieces)) } := by
  have opens : assign ps name .text (strip (" " ++ multiline)) =
      .ok { params := ps, opened := .value name [] } := by
    have parts : cutSeq multiline (String.ofList (multiline.toList.drop 3)) = none := by decide
    have trimmed : strip (" " ++ multiline) = multiline := by decide
    have start : startsWith multiline multiline = true := by decide
    simp only [assign, trimmed, start, parts]
    rfl
  have closes : step schema { params := ps, opened := .value name pieces } multiline =
      .ok { params := ps.insert name (.text (join "\n" pieces)) } := by
    have parts : cutSeq multiline multiline = some ("", "") := by decide
    have none : strip "" = "" := by decide
    simp only [step, parts, declared, none]
    rfl
  rw [List.foldlM_cons, step_header settled hn declared, opens]
  simp only [bind, Except.bind]
  rw [List.foldlM_append, foldlM_step_more fun p hp => (h p hp).2.2.2]
  simp only [bind, Except.bind, List.nil_append, List.foldlM_cons, closes]
  rfl

/-- The lines of a block are read as the block, which is open in the end. -/
theorem read_block (settled : r.finish = .ok ps) (hn : IsParamName name)
    (declared : schema.params.get? name = some .block) {entries : Entries String String}
    (h : ∀ e ∈ entries.toList, IsEntry e.1 e.2) :
    (strip ("- " ++ name ++ ":" ++ "") :: entries.toList.map fun e =>
        strip ("  " ++ e.1 ++ ": " ++ e.2)).foldlM (step schema) r =
      .ok { params := ps, opened := .block name entries } := by
  have opens : assign ps name .block (strip "") =
      .ok { params := ps, opened := .block name ∅ } := by
    have none : strip "" = "" := by decide
    have start : startsWith multiline "" = false := by decide
    simp only [assign, none, start]
    rfl
  have all : entries.toList.foldl (fun known e => known.insert e.1 e.2) ∅ = entries :=
    Entries.ext (Entries.toList_ofList entries.nodup_keys)
  rw [List.foldlM_cons, step_header settled hn declared, opens]
  simp only [bind, Except.bind]
  rw [read_entries h]
  simp only [all]

/-- The lines of a canonical parameter are read as this parameter. -/
theorem read_param {value : ParamValue} (settled : r.finish = .ok ps) (hn : IsParamName name)
    (declared : schema.params.get? name = some type) (h : value.Canonical type) :
    ∃ r', (Tag.paramLines name value).foldlM (step schema) r = .ok r' ∧
      r'.finish = .ok (ps.insert name value) := by
  have oneLine := hn.2.2.2
  obtain rfl : value.type = type := h.type_eq
  cases value with
  | text value =>
    refine ⟨{ params := ps.insert name (.text value) }, ?_, rfl⟩
    cases h with
    | line trimmed line start =>
      have same : strip value = value := trimmed
      rw [Tag.paramLines_line oneLine line, List.foldlM_cons, step_plain settled hn declared
        (v := .text value) nofun (by rw [same, start]) (by rw [same]; rfl)]
      rfl
    | lines two each =>
      rw [Tag.paramLines_pieces oneLine two each]
      exact read_lines settled hn declared each
  | list items =>
    refine ⟨{ params := ps.insert name (.list items) }, ?_, rfl⟩
    obtain ⟨hi, fits⟩ := h
    have conv : Schema.convert name .list (strip (join ", " items)) = .ok (.list items) := by
      have read : listItems (strip (join ", " items)) = items := by
        rw [listItems_strip, listItems_join hi]
      exact congrArg (fun items => Except.ok (ParamValue.list items)) read
    rw [Tag.paramLines_list, contentLines_header oneLine
      (OneLine.append (by decide) (OneLine.join (by decide) fits.oneLine)), List.foldlM_cons,
      step_plain settled hn declared nofun (startsWith_strip_join hi fits.start) conv]
    rfl
  | block entries =>
    rw [Tag.paramLines_block oneLine h]
    exact ⟨_, read_block settled hn declared h, rfl⟩

/-- The lines of canonical parameters are read as these parameters, one after the other. -/
theorem read_params {params : List (String × ParamValue)} (settled : r.finish = .ok ps)
    (names : ∀ p ∈ params, IsParamName p.1)
    (values : ∀ p ∈ params, ∃ type, schema.params.get? p.1 = some type ∧ p.2.Canonical type) :
    ∃ r', (params.flatMap fun p => Tag.paramLines p.1 p.2).foldlM
        (step schema) r = .ok r' ∧
      r'.finish = .ok (params.foldl (fun ps p => ps.insert p.1 p.2) ps) := by
  induction params generalizing r ps with
  | nil => exact ⟨r, rfl, settled⟩
  | cons p params ih =>
    obtain ⟨hn, hns⟩ := List.forall_mem_cons.1 names
    obtain ⟨⟨type, declared, hv⟩, hvs⟩ := List.forall_mem_cons.1 values
    obtain ⟨r', read, settled'⟩ := read_param settled hn declared hv
    obtain ⟨r'', reads, last⟩ := ih settled' hns hvs
    refine ⟨r'', ?_, last⟩
    rw [List.flatMap_cons, List.foldlM_append, read]
    exact reads

end ParamReader

/-! ## Tags -/

namespace Schema

variable {schema : Schema} {t : Tag}

/-- The line of arguments that fit does not begin with a dash. -/
theorem startsWith_argLine {args : List String} (h : ArgsFit args) :
    startsWith "-" (strip (join " | " args)) = false := by
  refine Bool.eq_false_iff.2 fun dash => ?_
  obtain ⟨rest, dash⟩ := startsWith_iff.1 dash
  rw [toList_strip] at dash
  cases args with
  | nil => exact absurd dash (by simp [join, stripChars, stripStartChars, stripEndChars])
  | cons a args =>
    obtain ⟨behind, whole, last⟩ := toList_join_cons " | " a args
    rw [whole] at dash
    by_cases ha : a = ""
    · subst ha
      rcases last with rfl | ⟨more, rfl⟩
      · exact absurd dash (by simp [stripChars, stripStartChars, stripEndChars])
      · have line : stripChars (("" : String).toList ++ (" | ".toList ++ more)) =
            '|' :: stripEndChars (' ' :: more) :=
          stripChars_append_cons (a := [' ']) (by decide)
        rw [line] at dash
        exact absurd (List.cons.inj dash).1 (by decide)
    · obtain ⟨c, cs, hc, notBlank⟩ := (h.trimmed a (by simp)).exists_cons ha
      rw [hc, List.cons_append, stripChars_cons notBlank] at dash
      refine h.noDash a rfl ?_
      rw [hc]
      exact congrArg some (List.cons.inj dash).1.symm

/-- Arguments that fit are read back. -/
theorem readArgText_argLine {args : List String} (each : ∀ a ∈ args, IsArgument a)
    (h : ArgsFit args) :
    readArgText (join " " ([strip (join " | " args)].filter (· ≠ ""))) = args := by
  by_cases hne : args = []
  · subst hne
    decide
  · have kept : strip (join " | " args) ≠ "" := by
      intro blank
      have last : args.getLast hne ≠ "" := fun e =>
        h.last (by rw [List.getLast?_eq_some_getLast hne, e])
      obtain ⟨c, cs, hc, notBlank⟩ := (h.trimmed _ (List.getLast_mem hne)).exists_cons last
      have inside : c ∈ (join " | " args).toList :=
        (infix_join (List.getLast_mem hne)).subset (by simp [hc])
      rw [strip_eq_empty_iff.1 blank c inside] at notBlank
      cases notBlank
    have back : args.map (fun a => unquote (strip a)) = args := by
      conv_rhs => rw [← List.map_id args]
      refine List.map_congr_left fun a ha => ?_
      rw [show strip a = a from h.trimmed a ha]
      exact unquote_eq_self_iff.2 (h.unquoted a ha)
    have single : join " " ([strip (join " | " args)].filter (· ≠ "")) =
        strip (join " | " args) := by
      rw [List.filter_cons_of_pos (by simpa using kept)]
      rfl
    rw [single, readArgText_join hne (fun a ha => (each a ha).1) kept, back]

theorem parse_renderLines (h : t.Canonical schema) :
    schema.parse (join "\n" t.renderLines) = .ok t := by
  have names : ∀ p ∈ t.params.toList, IsParamName p.1 := fun p hp =>
    h.names p.1 (List.mem_map_of_mem hp)
  have start : ParamReader.finish {} = .ok ∅ := rfl
  obtain ⟨r, reads, last⟩ := ParamReader.read_params start names fun p hp =>
    h.values p.1 p.2 (Entries.get?_eq_some_iff.2 hp)
  have all : t.params.toList.foldl (fun ps p => ps.insert p.1 p.2) ∅ = t.params :=
    Entries.ext (Entries.toList_ofList t.params.nodup_keys)
  have lines := Tag.contentLines_renderLines fun a ha => (h.arguments a ha).2
  rw [Tag.trimArgs_eq_self_iff.2 h.argsFit.last] at lines
  rw [parse_of_content lines (by simpa using fun _ => startsWith_argLine h.argsFit)
    (Tag.startsWith_head?_paramLines fun p hp => (names p hp).2.2.2),
    readArgText_argLine h.arguments h.argsFit, checkArgs_eq_ok_iff.2 h.accepted]
  simp only [bind, Except.bind, parseParams, reads, last, all]
  rfl

/-- Canonical tags are kept when they are written and read again. -/
theorem parse_render (h : t.Canonical schema) :
    ∃ content, schema.render? t = some content ∧ schema.parse content = .ok t := by
  refine ⟨_, render?_of_types fun name value found => ?_, parse_renderLines h⟩
  obtain ⟨type, declared, hv⟩ := h.values name value found
  rw [declared, hv.type_eq]

/-- A schema with a parameter of each type. -/
def ofEachType : Schema where
  args := [⟨.text, false⟩, ⟨.text, true⟩, ⟨.text, true⟩]
  params := .ofList [("tags", .list), ("properties", .block), ("notes", .text)]

end Schema

/-- A tag with an empty argument in the middle and a parameter of each type. -/
def Tag.ofEachType : Tag where
  args := ["Target", "", "gRPC"]
  params := .ofList [("tags", .list ["DirectRelation", "critical"]),
    ("properties", .block (.ofList [("owner", "team-a: core"), ("", "")])),
    ("notes", .text (join "\n" ["line one", "- line | two"]))]

namespace Schema

/-- The empty argument, the entry without texts and both lines of the text come back. -/
theorem parse_render_ofEachType :
    Tag.ofEachType.Canonical ofEachType ∧ ∃ content,
      ofEachType.render? Tag.ofEachType = some content ∧
        ofEachType.parse content = .ok Tag.ofEachType := by
  have canonical : Tag.ofEachType.Canonical ofEachType := by
    refine ⟨checkArgs_eq_ok_iff.1 (by decide +kernel), by decide +kernel, by decide +kernel,
      by decide +kernel, ?_⟩
    intro name value found
    have pairs : Tag.ofEachType.params.toList = [("tags", .list ["DirectRelation", "critical"]),
        ("properties", .block (.ofList [("owner", "team-a: core"), ("", "")])),
        ("notes", .text (join "\n" ["line one", "- line | two"]))] := by decide +kernel
    have pair := Entries.get?_eq_some_iff.1 found
    rw [pairs] at pair
    simp only [List.mem_cons, List.not_mem_nil, or_false, Prod.mk.injEq] at pair
    obtain ⟨rfl, rfl⟩ | ⟨rfl, rfl⟩ | ⟨rfl, rfl⟩ := pair
    · exact ⟨.list, by decide +kernel, by decide +kernel, by decide +kernel, by decide +kernel⟩
    · refine ⟨.block, by decide +kernel, fun e he => ?_⟩
      have entries : (Entries.ofList [("owner", "team-a: core"), ("", "")]).toList =
          [("owner", "team-a: core"), ("", "")] := by decide +kernel
      rw [entries] at he
      simp only [List.mem_cons, List.not_mem_nil, or_false] at he
      obtain rfl | rfl := he <;>
        exact ⟨by decide +kernel, by decide +kernel, by decide +kernel, by decide +kernel⟩
    · exact ⟨.text, by decide +kernel, .lines (by decide +kernel) (by decide +kernel)⟩
  exact ⟨canonical, parse_render canonical⟩

end Schema

end ArchModel
