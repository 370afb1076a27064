import ArchModel.Extraction.Tags
import ArchModel.Proofs.Tag.Parsed
import ArchModel.Proofs.Tag.RoundTrip

/-!
# Writing what was read

A tag that was read can be written, but reading it again gives the same tag only if it is writable:
writing puts no quotes around an argument, leaves out empty arguments at the end, and puts a list on
one line behind the name of its parameter.

* `Schema.argsFit_of_kept`: arguments that are kept fit on a line.
* `Tag.header_of_paramLines`: of the lines of a parameter that was read, only the first one has a
  name and a value with three quotes.
* **`Schema.parse_render_iff`**: a tag that was read is kept exactly if it is writable.
* `Schema.not_forall_parse_render`: not every tag that was read is kept.
-/

namespace ArchModel

open Text

variable {schema : Schema} {lines : List String} {t : Tag}

/-! ## Arguments -/

theorem length_unquote_le (s : String) : (unquote s).toList.length ≤ s.toList.length :=
  (isInfix_unquote s).length_le

theorem trimmed_of_unquote_strip {a : String} (h : unquote (strip a) = a) :
    Trimmed a ∧ ¬InQuotes a := by
  have inner : (strip a).toList <:+: a.toList := by
    rw [toList_strip]
    exact isInfix_stripChars _
  have long : a.toList.length ≤ (strip a).toList.length := by
    calc a.toList.length
      _ = (unquote (strip a)).toList.length := by rw [h]
      _ ≤ (strip a).toList.length := length_unquote_le _
  have trimmed : strip a = a :=
    String.toList_inj.1 (inner.eq_of_length (Nat.le_antisymm inner.length_le long))
  rw [trimmed] at h
  exact ⟨trimmed, unquote_eq_self_iff.1 h⟩

/-- Arguments that are read back from between bars are all there, each trimmed and out of quotes. -/
theorem trimArgs_of_read {args : List String}
    (read : args = (Tag.trimArgs args).map fun a => unquote (strip a)) :
    Tag.trimArgs args = args ∧ ∀ a ∈ args, Trimmed a ∧ ¬InQuotes a := by
  have all : Tag.trimArgs args = args :=
    (Tag.isPrefix_trimArgs args).eq_of_length (by rw [← List.length_map, ← read])
  rw [all] at read
  have same := read.symm.trans (List.map_id args).symm
  exact ⟨all, fun a ha => trimmed_of_unquote_strip (List.map_inj_left.1 same a ha)⟩

/-- A line of arguments begins with a dash if the first argument does. -/
theorem startsWith_strip_join_of_dash {a : String} (dash : a.toList.head? = some '-')
    (args : List String) : startsWith "-" (strip (join " | " (a :: args))) = true := by
  obtain ⟨cs, hcs⟩ : ∃ cs, a.toList = '-' :: cs := List.head?_eq_some_iff.1 dash
  obtain ⟨behind, whole, -⟩ := toList_join_cons " | " a args
  rw [hcs, List.cons_append] at whole
  have line : (strip (join " | " (a :: args))).toList = '-' :: stripEndChars (cs ++ behind) := by
    rw [toList_strip, whole, stripChars_cons (by decide)]
  rw [startsWith_iff, line]
  exact ⟨stripEndChars (cs ++ behind), rfl⟩

/-- Arguments that are read back from their line, in front of lines with a dash, fit on it. -/
theorem Schema.argsFit_of_kept {args ls : List String} (each : ∀ a ∈ args, IsArgument a)
    (dash : ∀ l ∈ ls.head?, startsWith "-" l = true)
    (kept : args = readArgText (join " " (([strip (join " | " (Tag.trimArgs args))].filter
      (· ≠ "") ++ ls).takeWhile fun line => !startsWith "-" line))) : ArgsFit args := by
  have none : ls.takeWhile (fun line => !startsWith "-" line) = [] := by
    cases ls with
    | nil => rfl
    | cons l ls => simp [dash l rfl]
  by_cases blank : strip (join " | " (Tag.trimArgs args)) = ""
  · rw [List.filter_cons_of_neg (by simpa using blank), List.filter_nil, List.nil_append,
      none] at kept
    exact kept ▸ by decide
  rw [List.filter_cons_of_pos (by simpa using blank), List.filter_nil,
    List.singleton_append] at kept
  cases start : startsWith "-" (strip (join " | " (Tag.trimArgs args))) with
  | true =>
    rw [List.takeWhile_cons_of_neg (by simp [start])] at kept
    exact kept ▸ by decide
  | false =>
    have some : Tag.trimArgs args ≠ [] := fun e => blank (by rw [e]; decide)
    rw [List.takeWhile_cons_of_pos (by simp [start]), none] at kept
    have read : args = (Tag.trimArgs args).map fun a => unquote (strip a) := by
      rw [← readArgText_join some
        (fun a ha => (each a ((Tag.isPrefix_trimArgs args).subset ha)).1) blank]
      exact kept
    obtain ⟨all, fit⟩ := trimArgs_of_read read
    refine ⟨Tag.trimArgs_eq_self_iff.1 all, fun a ha => (fit a ha).1, fun a ha => (fit a ha).2,
      fun a ha dash' => ?_⟩
    obtain ⟨rest, rfl⟩ := List.head?_eq_some_iff.1 (Option.mem_def.1 ha)
    rw [all, startsWith_strip_join_of_dash dash'] at start
    cases start

/-! ## Parameters -/

theorem ParamValue.ReadFrom.type_eq {name : String} {type : ValueType} {value : ParamValue}
    (h : value.ReadFrom lines name type) : value.type = type := by
  cases type <;> cases value <;> first | rfl | exact h.elim

/-- The items of a list that was read are all on one line, or none has three quotes. -/
theorem oneLine_or_noQuotes {name : String} {type : ValueType} {items : List String}
    (oneLines : ∀ l ∈ lines, OneLine l) (h : (ParamValue.list items).ReadFrom lines name type) :
    (∀ i ∈ items, OneLine i) ∨ ∀ i ∈ items, ¬multiline.toList <:+: i.toList := by
  obtain rfl : ValueType.list = type := h.type_eq
  obtain ⟨-, line, hm, v, header, read⟩ := h
  split at read
  · exact .inr read
  · refine .inl fun i hi => (oneLines line hm).of_subset ?_
    rw [read] at hi
    exact ((mem_listItems hi).2.trans (headerOf?_spec header).2.2).subset

theorem noQuotes_join {items : List String} (h : ∀ i ∈ items, ¬multiline.toList <:+: i.toList) :
    ¬multiline.toList <:+: (join ", " items).toList := fun quotes =>
  have ⟨i, hi, inside⟩ := infix_of_infix_join (by decide) (by decide) (by simp [multiline]) quotes
  h i hi inside

theorem noQuotes_space {cs : List Char} (h : ¬multiline.toList <:+: cs) :
    ¬multiline.toList <:+: ' ' :: cs := fun quotes =>
  (infix_of_infix_append_cons (a := []) (by decide) quotes).elim
    (fun inside => absurd inside (by decide)) h

/-- A list without three quotes may go on in further lines, but none of its lines has a value with
three quotes. -/
theorem noQuotes_of_listLine {line name v name' : String} {items : List String}
    (oneLine : OneLine name') (noColon : ':' ∉ name'.toList)
    (none : ∀ i ∈ items, ¬multiline.toList <:+: i.toList)
    (hm : line ∈ Tag.paramLines name' (.list items)) (header : headerOf? line = some (name, v)) :
    ¬multiline.toList <:+: v.toList := by
  have start : OneLine ("- " ++ name' ++ ":") :=
    (OneLine.append (by decide) oneLine).append (by decide)
  have noQuotes : ¬multiline.toList <:+: (" " ++ join ", " items).toList := by
    simpa using noQuotes_space (noQuotes_join none)
  obtain ⟨more, ls, lines, begins, -, inside⟩ :=
    Schema.contentLines_append start (strip_header_ne name') (" " ++ join ", " items)
  rw [Tag.paramLines_list, lines, List.mem_cons] at hm
  intro quotes
  rcases hm with rfl | hl
  · rw [headerOf?_strip noColon] at header
    obtain ⟨-, rfl⟩ := Prod.mk.inj (Option.some.inj header)
    rw [toList_strip] at quotes
    exact noQuotes ((quotes.trans (isInfix_stripChars _)).trans begins.isInfix)
  · exact noQuotes ((quotes.trans (headerOf?_spec header).2.2).trans (inside line hl))

/-- Of the lines of a parameter that was read, only the first one has a name and a value with three
quotes. The value of a list is a beginning of the joined items. -/
theorem Tag.header_of_paramLines {line name v name' : String} {value : ParamValue}
    {type : ValueType} (hm : line ∈ paramLines name' value)
    (header : headerOf? line = some (name, v)) (quotes : multiline.toList <:+: v.toList)
    (hn : IsParamName name') (read : value.ReadFrom lines name' type)
    (oneLines : ∀ l ∈ lines, OneLine l) :
    name = name' ∧ ∀ items, value = .list items →
      ∃ more : String, v = strip more ∧ more.toList <+: (join ", " items).toList := by
  obtain ⟨-, trimmed, noColon, oneLine⟩ := hn
  obtain rfl : value.type = type := read.type_eq
  have first {tail : String} (own : line = strip ("- " ++ name' ++ ":" ++ tail)) :
      name = name' ∧ v = strip tail := by
    rw [own, headerOf?_strip noColon, trimmed] at header
    obtain ⟨rfl, rfl⟩ := Prod.mk.inj (Option.some.inj header)
    exact ⟨rfl, rfl⟩
  have dash : startsWith "-" line ≠ false := fun none => by
    rw [headerOf?_eq_none_iff.2 none] at header
    cases header
  cases value with
  | text value =>
    refine ⟨?_, nofun⟩
    cases read with
    | line _ line _ =>
      rw [paramLines_line oneLine line] at hm
      exact (first (List.mem_singleton.1 hm)).1
    | lines two each =>
      rw [paramLines_pieces oneLine two each, List.mem_cons, List.mem_append,
        List.mem_singleton] at hm
      rcases hm with own | hp | rfl
      · exact (first own).1
      · exact absurd (quotes.trans (headerOf?_spec header).2.2) (each _ hp).2.2.2
      · exact absurd (by decide) dash
  | list items =>
    rcases oneLine_or_noQuotes oneLines read with each | none
    · have whole : OneLine (" " ++ join ", " items) :=
        OneLine.append (by decide) (OneLine.join (by decide) each)
      rw [paramLines_list, contentLines_header oneLine whole, List.mem_singleton] at hm
      obtain ⟨same, hv⟩ := first hm
      refine ⟨same, fun items' e => ⟨join ", " items', ?_, List.prefix_rfl⟩⟩
      obtain rfl := ParamValue.list.inj e
      rw [hv, strip_space]
    · exact absurd quotes (noQuotes_of_listLine oneLine noColon none hm header)
  | block entries =>
    refine ⟨?_, nofun⟩
    rw [paramLines_block oneLine read, List.mem_cons, List.mem_map] at hm
    rcases hm with own | ⟨e, he, rfl⟩
    · exact (first own).1
    · exact absurd (startsWith_strip_entry (read e he)) dash

theorem startsWith_strip_of_prefix {more whole : String} (prefix' : more.toList <+: whole.toList)
    (start : multiline.toList <+: whole.toList) (quotes : multiline.toList <:+: more.toList) :
    startsWith multiline (strip more) = true := by
  obtain ⟨rest, hr⟩ := List.prefix_of_prefix_length_le start prefix' quotes.length_le
  have line : stripChars (['"', '"'] ++ '"' :: rest) = ['"', '"'] ++ '"' :: stripEndChars rest :=
    stripChars_append_cons (by decide)
  rw [startsWith_iff, toList_strip, ← hr]
  exact ⟨stripEndChars rest, line.symm⟩

/-- Of a tag that was read and is written, a line that names a list and has a value with three
quotes is the first one of the list: its value is a beginning of the joined items. -/
theorem Tag.prefix_join_of_quotes (h : t.ReadFrom schema lines) (oneLines : ∀ l ∈ lines, OneLine l)
    (args : ArgsFit t.args) {name line v : String} {items : List String}
    (found : t.params.get? name = some (.list items))
    (hm : line ∈ Schema.contentLines (join "\n" t.renderLines))
    (header : headerOf? line = some (name, v)) (quotes : multiline.toList <:+: v.toList) :
    ∃ more : String, v = strip more ∧ more.toList <+: (join ", " items).toList := by
  rw [contentLines_renderLines fun a ha => (h.arguments a ha).2, trimArgs_eq_self_iff.2 args.last,
    List.mem_append] at hm
  rcases hm with hm | hm
  · obtain rfl := List.mem_singleton.1 (List.mem_of_mem_filter hm)
    rw [headerOf?_eq_none_iff.2 (Schema.startsWith_argLine args)] at header
    cases header
  · obtain ⟨p, hp, hm⟩ := List.mem_flatMap.1 hm
    obtain ⟨named, type, -, origin⟩ := h.params p.1 p.2 (Entries.get?_eq_some_iff.2 hp)
    obtain ⟨rfl, whole⟩ := header_of_paramLines hm header quotes named origin oneLines
    refine whole items (Option.some.inj ?_)
    rw [← Entries.get?_eq_some_iff.2 hp, found]

/-- A list that was read and is read again from the line on which it is written fits on the line,
where `own` says what the line has if there are three quotes in its value. -/
theorem listFits_of_kept {name line v : String} {items : List String} (oneLine : OneLine line)
    (header : headerOf? line = some (name, v))
    (own : multiline.toList <:+: v.toList →
      ∃ more : String, v = strip more ∧ more.toList <+: (join ", " items).toList)
    (again : if startsWith multiline v then ∀ i ∈ items, ¬multiline.toList <:+: i.toList
      else items = listItems v) : ListFits items := by
  split at again
  · next start =>
    have quotes : multiline.toList <:+: v.toList := (startsWith_iff.1 start).isInfix
    obtain ⟨more, rfl, whole⟩ := own quotes
    rw [toList_strip] at quotes
    exact absurd ((quotes.trans (isInfix_stripChars _)).trans whole.isInfix) (noQuotes_join again)
  · next start =>
    have inside : ∀ i ∈ items, i.toList <:+: v.toList := fun i hi => by
      rw [again] at hi
      exact (mem_listItems hi).2
    refine ⟨fun i hi => ?_, fun i hi => Bool.eq_false_iff.2 fun quotes => start ?_⟩
    · refine oneLine.of_subset ?_
      exact ((inside i hi).trans (headerOf?_spec header).2.2).subset
    · have begins := startsWith_iff.1 quotes
      have held := begins.isInfix.trans (inside i (List.mem_of_head? hi))
      obtain ⟨more, rfl, whole⟩ := own held
      obtain ⟨rest, rfl⟩ := List.head?_eq_some_iff.1 (Option.mem_def.1 hi)
      obtain ⟨behind, joined, -⟩ := toList_join_cons ", " i rest
      rw [toList_strip] at held
      refine startsWith_strip_of_prefix whole ?_ (held.trans (isInfix_stripChars _))
      rw [joined]
      exact begins.trans (List.prefix_append _ _)

/-- A tag that was read is writable if it is kept. -/
theorem Schema.writable_of_kept (h : t.ReadFrom schema lines) (oneLines : ∀ l ∈ lines, OneLine l)
    (kept : schema.parse (join "\n" t.renderLines) = .ok t) : t.Writable := by
  have args : ArgsFit t.args := by
    have read := (parse_eq_ok kept).1
    rw [Tag.contentLines_renderLines fun a ha => (h.arguments a ha).2] at read
    refine argsFit_of_kept h.arguments (Tag.startsWith_head?_paramLines fun p hp => ?_) read
    exact (h.params p.1 p.2 (Entries.get?_eq_some_iff.2 hp)).1.2.2.2
  refine ⟨args, fun name items found => ?_⟩
  obtain ⟨-, type, -, again⟩ := (parse_readFrom kept).params name _ found
  obtain rfl : ValueType.list = type := again.type_eq
  obtain ⟨-, line, hm, v, header, again⟩ := again
  exact listFits_of_kept (mem_contentLines hm).2.2 header
    (Tag.prefix_join_of_quotes h oneLines args found hm header) again

/-- A tag that was read is kept exactly if it is writable: writing it and reading what was written
gives the same tag, or else another tag or none. -/
theorem Schema.parse_render_iff {content : String} (h : schema.parse content = .ok t) :
    ∃ written, schema.render? t = some written ∧
      (schema.parse written = .ok t ↔ t.Writable) := by
  have read := parse_readFrom h
  have rendered : schema.render? t = some (join "\n" t.renderLines) := by
    refine render?_of_types fun name value found => ?_
    obtain ⟨-, type, declared, origin⟩ := read.params name value found
    rw [declared, origin.type_eq]
  exact ⟨_, rendered, writable_of_kept read fun l hl => (mem_contentLines hl).2.2,
    fun w => parse_renderLines (read.canonical w)⟩

/-- In the tag of a group, an argument in quotes that begins with a dash is read. -/
theorem Schema.parse_render_iff_dash :
    group.parse "\"-x\"" = .ok { args := ["-x"] } ∧ ∃ written,
      group.render? { args := ["-x"] } = some written ∧
        (group.parse written = .ok { args := ["-x"] } ↔
          Tag.Writable { args := ["-x"] }) := by
  have read : group.parse "\"-x\"" = .ok { args := ["-x"] } := by decide +kernel
  exact ⟨read, parse_render_iff read⟩

/-- Not every tag that was read is kept: without its quotes, an argument that begins with a dash is
read as a parameter. -/
theorem Schema.not_forall_parse_render :
    ¬∀ (schema : Schema) (content : String) (t : Tag), schema.parse content = .ok t →
      ∃ written, schema.render? t = some written ∧ schema.parse written = .ok t := by
  intro kept
  obtain ⟨written, rendered, again⟩ :=
    kept group "\"-x\"" { args := ["-x"] } (by decide +kernel)
  have line : group.render? { args := ["-x"] } = some "-x" := by decide +kernel
  have missing : group.parse "-x" = .error (.missingArg 0) := by decide +kernel
  obtain rfl := Option.some.inj (line.symm.trans rendered)
  cases missing.symm.trans again

end ArchModel
