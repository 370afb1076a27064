import ArchModel.Proofs.Tag.Arguments
import ArchModel.Proofs.Tag.Overwriting

/-!
# Parameters in any order

The lines of an accepted content are its arguments and then its parameters, each on lines of its
own.

* `ParamLines` says which lines are those of one parameter, without reading them under a schema, and
  `MadeOf` that a content is made of arguments and of such lines.
* `ParamReader.HasOne` holds of a reader that has this parameter and no other. The first line of a
  parameter brings it about, those below keep it (`hasOne_of_paramLines`).
* `Schema.exists_decls`: accepted lines are the lines of parameters one after the other.
  `Schema.parse_eq_ok_iff` says how a content that is made of such lines is read.
* **`Schema.parse_reordered`**: lines are read alike below any accepted lines, and parameters of
  distinct names may change places.
-/

namespace ArchModel

open Text

/-! ## The lines of a parameter -/

/-- A value begins with three quotes and has no others, so it goes on below its line. -/
def RunsOn (value : String) : Prop :=
  startsWith multiline value = true ∧ ¬multiline.toList <:+: value.toList.drop 3

instance (value : String) : Decidable (RunsOn value) := inferInstanceAs (Decidable (_ ∧ _))

/-- The lines of one parameter: a line with a dash and the name, the rest of its value, and lines
without a dash. -/
inductive ParamLines (name : String) : List String → Prop
  /-- The value does not go on below the first line, unless it is a block. -/
  | short {line value : String} {below : List String}
      (header : headerOf? line = some (name, value)) (ends : ¬RunsOn value)
      (noDash : ∀ l ∈ below, startsWith "-" l = false) : ParamLines name (line :: below)
  /-- The value goes on up to the next three quotes, with or without dashes in between. -/
  | long {line value last : String} {inside below : List String}
      (header : headerOf? line = some (name, value)) (runsOn : RunsOn value)
      (apart : ∀ l ∈ inside, ¬multiline.toList <:+: l.toList)
      (closing : multiline.toList <:+: last.toList)
      (noDash : ∀ l ∈ below, startsWith "-" l = false) :
      ParamLines name (line :: (inside ++ last :: below))

/-- A parameter as it stands in a content. -/
structure ParamDecl where
  name : String
  lines : List String
  /-- The lines are those of the parameter, from the first to the last. -/
  complete : ParamLines name lines

/-- A content has lines of arguments, and below them those of some parameters. -/
structure MadeOf (content : String) (args : List String) (decls : List ParamDecl) : Prop where
  lines_eq : Schema.contentLines content = args ++ decls.flatMap ParamDecl.lines
  noDash : ∀ l ∈ args, startsWith "-" l = false

theorem ParamLines.exists_cons {name : String} {lines : List String} (h : ParamLines name lines) :
    ∃ line below, lines = line :: below ∧ startsWith "-" line = true := by
  cases h with
  | short header ends noDash => exact ⟨_, _, rfl, startsWith_of_header header⟩
  | long header runsOn apart closing noDash => exact ⟨_, _, rfl, startsWith_of_header header⟩

theorem startsWith_head?_decls (decls : List ParamDecl) :
    ∀ l ∈ (decls.flatMap ParamDecl.lines).head?, startsWith "-" l = true := by
  cases decls with
  | nil => simp
  | cons d decls =>
    obtain ⟨line, below, lines_eq, dash⟩ := d.complete.exists_cons
    rw [List.flatMap_cons, lines_eq]
    simpa using dash

/-- Lines are divided at the first one that fails a test. -/
theorem exists_span (p : String → Prop) [DecidablePred p] (ls : List String) :
    ∃ before more, ls = before ++ more ∧ (∀ l ∈ before, p l) ∧ ∀ l ∈ more.head?, ¬p l := by
  refine ⟨ls.takeWhile (p ·), ls.dropWhile (p ·), List.takeWhile_append_dropWhile.symm,
    fun l hl => by simpa using List.mem_takeWhile_imp hl, fun l hl => ?_⟩
  have := List.head?_dropWhile_not (fun l => decide (p l)) ls
  rw [hl] at this
  simpa using this

theorem exists_span_dash (ls : List String) :
    ∃ before more, ls = before ++ more ∧ (∀ l ∈ before, startsWith "-" l = false) ∧
      ∀ l ∈ more.head?, startsWith "-" l = true := by
  simpa using exists_span (startsWith "-" · = false) ls

/-! ## Reading the lines of a parameter -/

theorem cutSeq_eq_none_iff_runsOn {value : String} (start : startsWith multiline value = true) :
    cutSeq multiline (String.ofList (value.toList.drop 3)) = none ↔ RunsOn value := by
  rw [cutSeq_eq_none_iff (by decide), String.toList_ofList, RunsOn, and_iff_right start]

namespace ParamReader

variable {schema : Schema} {r r' : ParamReader} {name line value : String} {lines : List String}

/-- The reader has one parameter, complete or as an open block, and no other. -/
def HasOne (name : String) (r : ParamReader) : Prop :=
  ∃ v, r.finish = .ok (.ofList [(name, v)])

/-- A line without a dash is passed over or is an entry of the block. -/
theorem HasOne.step (h : HasOne name r) (noDash : startsWith "-" line = false)
    (read : step schema r line = .ok r') : HasOne name r' := by
  obtain ⟨v, one⟩ := h
  have noHeader : headerOf? line = none := headerOf?_eq_none_iff.2 noDash
  cases step_cases read with
  | more opened cut => simp [finish, opened] at one
  | close opened cut conv => simp [finish, opened] at one
  | @entry other entries opened _ colon =>
    have single : r.params.insert other (.block entries) = (∅ : Entries _ _).insert name v := by
      simp only [finish, opened] at one
      exact Except.ok.inj one
    obtain rfl : name = other := by
      by_contra apart
      have found := congrArg (Entries.get? · other) single
      simp [apart] at found
    let filled := entries.insert (strip (cut ':' line).1) (strip (cut ':' line).2)
    refine ⟨.block filled, congrArg Except.ok ?_⟩
    calc r.params.insert name (.block filled)
        = (r.params.insert name (.block entries)).insert name (.block filled) :=
          (Entries.insert_insert _ _ _ _).symm
      _ = (∅ : Entries _ _).insert name (.block filled) := by
          rw [single, Entries.insert_insert]
  | skip settled header => exact ⟨v, settled.symm.trans one⟩
  | plain settled header => rw [noHeader] at header; cases header
  | delimited settled header => rw [noHeader] at header; cases header
  | openValue settled header => rw [noHeader] at header; cases header
  | openBlock settled header => rw [noHeader] at header; cases header

theorem HasOne.foldlM (h : HasOne name r) (noDash : ∀ l ∈ lines, startsWith "-" l = false)
    (read : lines.foldlM (ParamReader.step schema) r = .ok r') : HasOne name r' :=
  foldlM_invariant (fun _ l hl _ h one => h.step (noDash l hl) one) h read

/-- All that the first line of a parameter can do: it sets the parameter, or it opens a block for
it, or it opens a multi-line value for it if its value goes on below. -/
theorem step_header_cases (header : headerOf? line = some (name, value))
    (read : step schema {} line = .ok r) :
    if RunsOn value then ∃ lines, r = { params := ∅, opened := .value name lines }
    else HasOne name r := by
  have same {x : String × String} (other : headerOf? line = some x) : x = (name, value) :=
    Option.some.inj (other.symm.trans header)
  cases step_cases read with
  | more opened cut => cases opened
  | close opened cut conv => cases opened
  | entry opened noDash colon => cases opened
  | skip settled other =>
    rw [header] at other
    cases other
  | @plain _ _ _ _ v settled other named declared start conv =>
    obtain ⟨rfl, rfl⟩ := Prod.mk.inj (same other)
    obtain rfl := Except.ok.inj settled
    rw [if_neg fun runsOn => by simp [runsOn.1] at start]
    exact ⟨v, rfl⟩
  | @delimited _ _ _ _ _ _ v settled other named declared start cut conv =>
    obtain ⟨rfl, rfl⟩ := Prod.mk.inj (same other)
    obtain rfl := Except.ok.inj settled
    rw [if_neg fun runsOn => by simp [(cutSeq_eq_none_iff_runsOn start).2 runsOn] at cut]
    exact ⟨v, rfl⟩
  | openValue settled other named declared start cut first_eq =>
    obtain ⟨rfl, rfl⟩ := Prod.mk.inj (same other)
    obtain rfl := Except.ok.inj settled
    rw [if_pos ((cutSeq_eq_none_iff_runsOn start).1 cut)]
    exact ⟨_, rfl⟩
  | openBlock settled other named declared =>
    obtain ⟨rfl, rfl⟩ := Prod.mk.inj (same other)
    obtain rfl := Except.ok.inj settled
    rw [if_neg (by decide)]
    exact ⟨.block ∅, rfl⟩

theorem hasOne_of_closing (closing : multiline.toList <:+: line.toList)
    (read : step schema { params := ∅, opened := .value name lines } line = .ok r) :
    HasOne name r := by
  cases step_cases read with
  | more opened cut => exact absurd closing ((cutSeq_eq_none_iff (by decide)).1 cut)
  | @close _ _ _ _ v opened cut conv =>
    obtain ⟨rfl, -⟩ := OpenParam.value.inj opened
    exact ⟨v, rfl⟩
  | entry opened noDash colon => cases opened
  | skip settled header => cases settled
  | plain settled => cases settled
  | delimited settled => cases settled
  | openValue settled => cases settled
  | openBlock settled => cases settled

/-- From the lines of a parameter this parameter is read and no other. -/
theorem hasOne_of_paramLines (h : ParamLines name lines)
    (read : lines.foldlM (step schema) {} = .ok r) : HasOne name r := by
  cases h with
  | short header ends noDash =>
    obtain ⟨r₁, first, rest⟩ := foldlM_cons_eq_ok.1 read
    have one := step_header_cases header first
    rw [if_neg ends] at one
    exact one.foldlM noDash rest
  | long header runsOn apart closing noDash =>
    obtain ⟨r₁, first, rest⟩ := foldlM_cons_eq_ok.1 read
    have opens := step_header_cases header first
    rw [if_pos runsOn] at opens
    obtain ⟨begun, rfl⟩ := opens
    obtain ⟨r₂, more, rest⟩ := foldlM_append_eq_ok.1 rest
    rw [foldlM_step_more apart] at more
    obtain rfl := Except.ok.inj more
    obtain ⟨r₃, last, rest⟩ := foldlM_cons_eq_ok.1 rest
    exact (hasOne_of_closing closing last).foldlM noDash rest

end ParamReader

/-! ## One parameter after the other -/

namespace Schema

variable {schema : Schema} {ps : Entries String ParamValue} {name line : String}
  {lines more : List String} {decls : List ParamDecl}

/-- Where lines are accepted, those of the first parameter are, and so are those below. -/
theorem parseParams_paramLines (h : ParamLines name lines)
    (dash : ∀ l ∈ more.head?, startsWith "-" l = true)
    (accepted : schema.parseParams (lines ++ more) = .ok ps) :
    ∃ v qs, schema.parseParams lines = .ok (.ofList [(name, v)]) ∧
      schema.parseParams more = .ok qs := by
  obtain ⟨r, read, -⟩ := bind_eq_ok.1 accepted
  obtain ⟨r₁, own, -⟩ := foldlM_append_eq_ok.1 read
  obtain ⟨v, settled⟩ := ParamReader.hasOne_of_paramLines h own
  have one : schema.parseParams lines = .ok (.ofList [(name, v)]) :=
    bind_eq_ok.2 ⟨r₁, own, settled⟩
  rw [parseParams_append one dash] at accepted
  cases below : schema.parseParams more with
  | error e =>
    rw [below] at accepted
    cases accepted
  | ok qs => exact ⟨v, qs, one, rfl⟩

theorem exists_value (accepted : schema.parseParams (decls.flatMap ParamDecl.lines) = .ok ps) :
    ∀ d ∈ decls, ∃ v, schema.parseParams d.lines = .ok (.ofList [(d.name, v)]) := by
  induction decls generalizing ps with
  | nil => simp
  | cons d decls ih =>
    rw [List.flatMap_cons] at accepted
    obtain ⟨v, qs, one, others⟩ :=
      parseParams_paramLines d.complete (startsWith_head?_decls decls) accepted
    exact List.forall_mem_cons.2 ⟨⟨v, one⟩, ih others⟩

/-- Parameters that are accepted by themselves are accepted one after the other. -/
theorem parseParams_decls {value : ParamDecl → ParamValue}
    (each : ∀ d ∈ decls, schema.parseParams d.lines = .ok (.ofList [(d.name, value d)])) :
    schema.parseParams (decls.flatMap ParamDecl.lines) =
      .ok (.ofList (decls.map fun d => (d.name, value d))) := by
  induction decls using List.reverseRecOn with
  | nil => rfl
  | append_singleton decls d ih =>
    have above := ih fun d' h => each d' (List.mem_append_left _ h)
    have last := each d (List.mem_append_right _ (List.mem_singleton_self d))
    have dash := startsWith_head?_decls [d]
    rw [List.flatMap_singleton] at dash
    rw [List.flatMap_append, List.flatMap_singleton, parseParams_append above dash, last,
      List.map_append, Entries.ofList_append]
    rfl

/-- Accepted lines begin with those of a parameter. -/
theorem exists_decl (dash : startsWith "-" line = true)
    (accepted : schema.parseParams (line :: lines) = .ok ps) :
    ∃ (d : ParamDecl) (more : List String), line :: lines = d.lines ++ more ∧
      more.length ≤ lines.length ∧ ∀ l ∈ more.head?, startsWith "-" l = true := by
  obtain ⟨⟨name, value⟩, header⟩ : ∃ x, headerOf? line = some x := by
    refine Option.ne_none_iff_exists'.1 fun none => ?_
    rw [headerOf?_eq_none_iff.1 none] at dash
    cases dash
  by_cases runsOn : RunsOn value
  · obtain ⟨inside, rest, rfl, apart, closes⟩ :=
      exists_span (fun l => ¬multiline.toList <:+: l.toList) lines
    cases rest with
    | nil =>
      -- The value would still be open in the end.
      obtain ⟨r, read, settled⟩ := bind_eq_ok.1 accepted
      obtain ⟨r₁, first, rest⟩ := foldlM_cons_eq_ok.1 read
      have opens := ParamReader.step_header_cases header first
      rw [if_pos runsOn] at opens
      obtain ⟨begun, rfl⟩ := opens
      rw [List.append_nil, ParamReader.foldlM_step_more apart] at rest
      obtain rfl := Except.ok.inj rest
      cases settled
    | cons last rest =>
      obtain ⟨below, more, rfl, noDash, next⟩ := exists_span_dash rest
      have closing := not_not.1 (closes last rfl)
      refine ⟨⟨name, _, .long header runsOn apart closing noDash⟩, more, by simp, ?_, next⟩
      simp only [List.length_append, List.length_cons]
      omega
  · obtain ⟨below, more, rfl, noDash, next⟩ := exists_span_dash lines
    exact ⟨⟨name, _, .short header runsOn noDash⟩, more, rfl, by simp, next⟩

/-- Accepted lines are those of parameters, one after the other. -/
theorem exists_decls (dash : ∀ l ∈ lines.head?, startsWith "-" l = true)
    (accepted : schema.parseParams lines = .ok ps) :
    ∃ decls : List ParamDecl, lines = decls.flatMap ParamDecl.lines := by
  induction length : lines.length using Nat.strongRecOn generalizing lines ps with
  | ind n ih =>
    cases lines with
    | nil => exact ⟨[], rfl⟩
    | cons line lines =>
      obtain ⟨d, more, whole, shorter, next⟩ := exists_decl (dash line rfl) accepted
      rw [whole] at accepted
      obtain ⟨-, qs, -, below⟩ := parseParams_paramLines d.complete next accepted
      rw [List.length_cons] at length
      obtain ⟨decls, rest⟩ := ih more.length (by omega) next below rfl
      exact ⟨d :: decls, by rw [whole, rest, List.flatMap_cons]⟩

/-! ## Contents -/

variable {content : String} {args : List String} {tag : Tag}

theorem exists_madeOf (accepted : schema.parse content = .ok tag) :
    ∃ args decls, MadeOf content args decls := by
  obtain ⟨args, params, whole, noDash, dash⟩ := exists_span_dash (contentLines content)
  rw [parse_of_content whole noDash dash] at accepted
  obtain ⟨-, -, accepted⟩ := bind_eq_ok.1 accepted
  obtain ⟨ps, read, -⟩ := bind_eq_ok.1 accepted
  obtain ⟨decls, rfl⟩ := exists_decls dash read
  exact ⟨args, decls, whole, noDash⟩

/-- A content is accepted if its arguments are and each of its parameters is by itself, and of the
parameters with the same name the last one counts. -/
theorem parse_eq_ok_iff (made : MadeOf content args decls) :
    schema.parse content = .ok tag ↔
      tag.args = readArgText (join " " args) ∧ schema.checkArgs tag.args = .ok () ∧
        ∃ value : ParamDecl → ParamValue,
          (∀ d ∈ decls, schema.parseParams d.lines = .ok (.ofList [(d.name, value d)])) ∧
          tag.params = .ofList (decls.map fun d => (d.name, value d)) := by
  rw [parse_of_content made.lines_eq made.noDash (startsWith_head?_decls decls)]
  generalize readArgText (join " " args) = given
  constructor
  · intro accepted
    obtain ⟨⟨⟩, fits, rest⟩ := bind_eq_ok.1 accepted
    obtain ⟨ps, read, rest⟩ := bind_eq_ok.1 rest
    obtain rfl := Except.ok.inj rest
    choose! value each using exists_value read
    have params_eq := Except.ok.inj (read.symm.trans (parseParams_decls each))
    exact ⟨rfl, fits, value, each, params_eq⟩
  · obtain ⟨targs, params⟩ := tag
    rintro ⟨rfl, fits, value, each, rfl⟩
    have read := parseParams_decls each
    exact bind_eq_ok.2 ⟨(), fits, bind_eq_ok.2 ⟨_, read, rfl⟩⟩

/-- **Parameters in any order.** Where lines are accepted and the line below them, if there is one,
has a dash, the lines below are read as they are by themselves: with the same error, or with
parameters that overwrite those above. An accepted content is made of arguments and parameters.
Where parameters of distinct names that follow each other change places, it is still accepted, and
each parameter has the same value. -/
theorem parse_reordered (schema : Schema) :
    (∀ (above below : List String) (ps : Entries String ParamValue),
      schema.parseParams above = .ok ps → (∀ l ∈ below.head?, startsWith "-" l = true) →
      schema.parseParams (above ++ below) = (schema.parseParams below).map ps.overwrite) ∧
    (∀ (content : String) (tag : Tag), schema.parse content = .ok tag →
      ∃ args decls, MadeOf content args decls) ∧
    ∀ (content content' : String) (tag : Tag) (args : List String)
      (above decls decls' below : List ParamDecl), schema.parse content = .ok tag →
      MadeOf content args (above ++ decls ++ below) →
      MadeOf content' args (above ++ decls' ++ below) →
      decls.Perm decls' → (decls.map ParamDecl.name).Nodup →
      ∃ params, schema.parse content' = .ok { tag with params } ∧
        ∀ name, params.get? name = tag.params.get? name := by
  refine ⟨fun above below ps accepted dash => parseParams_append accepted dash,
    fun content tag accepted => exists_madeOf accepted, ?_⟩
  intro content content' tag args above decls decls' below accepted made made' perm distinct
  obtain ⟨args_eq, fits, value, each, params_eq⟩ := (parse_eq_ok_iff made).1 accepted
  have members : (above ++ decls ++ below).Perm (above ++ decls' ++ below) :=
    (perm.append_left above).append_right below
  refine ⟨.ofList ((above ++ decls' ++ below).map fun d => (d.name, value d)),
    (parse_eq_ok_iff made').2
      ⟨args_eq, fits, value, fun d hd => each d (members.mem_iff.2 hd), rfl⟩,
    fun name => ?_⟩
  have swapped := Entries.get?_ofList_of_perm (perm.map fun d => (d.name, value d))
    (by simpa [Function.comp_def] using distinct) name
  simp only [params_eq, List.map_append, Entries.ofList_append, Entries.get?_overwrite, swapped]

end Schema

/-! ### A value with a dash, a block and a list -/

namespace Refunds

/-- A schema with a parameter of each type. -/
def schema : Schema where
  args := [⟨.text, false⟩, ⟨.list, true⟩]
  params := .ofList [("notes", .text), ("properties", .block), ("tags", .list)]

/-- A value of several lines, one of which has a dash. -/
def notes : ParamDecl where
  name := "notes"
  lines := ["- notes: \"\"\"", "- in parts", "\"\"\"", "as agreed"]
  complete := @ParamLines.long _ _ multiline _ ["- in parts"] _ (by decide +kernel)
    (by decide +kernel) (by decide +kernel) (by decide +kernel) (by decide +kernel)

/-- A block with an entry. -/
def properties : ParamDecl where
  name := "properties"
  lines := ["- properties:", "owner: a"]
  complete := @ParamLines.short _ _ "" _ (by decide +kernel) (by decide +kernel)
    (by decide +kernel)

/-- A list on one line. -/
def tags : ParamDecl where
  name := "tags"
  lines := ["- tags: late, slow"]
  complete := @ParamLines.short _ _ "late, slow" _ (by decide +kernel) (by decide +kernel)
    (by decide +kernel)

/-- A content with the list at the end. -/
def content : String :=
  "Refunds\n- notes: \"\"\"\n  - in parts\n\"\"\"\nas agreed\n- properties:\n  owner: a\n" ++
    "- tags: late, slow"

/-- The same with the list in front. -/
def reordered : String :=
  "Refunds\n- tags: late, slow\n- notes: \"\"\"\n  - in parts\n\"\"\"\nas agreed\n" ++
    "- properties:\n  owner: a"

theorem properties_read : schema.parseParams properties.lines =
    .ok (.ofList [("properties", .block (.ofList [("owner", "a")]))]) := by
  decide +kernel

theorem content_read : schema.parse content = .ok ⟨["Refunds"], .ofList [
    ("notes", .text "- in parts"), ("properties", .block (.ofList [("owner", "a")])),
    ("tags", .list ["late", "slow"])]⟩ := by
  decide +kernel

theorem content_made : MadeOf content ["Refunds"] ([] ++ [notes, properties, tags] ++ []) :=
  ⟨by decide +kernel, by decide +kernel⟩

theorem reordered_made : MadeOf reordered ["Refunds"] ([] ++ [tags, notes, properties] ++ []) :=
  ⟨by decide +kernel, by decide +kernel⟩

theorem tags_first : [notes, properties, tags].Perm [tags, notes, properties] :=
  (List.perm_append_comm : ([notes, properties] ++ [tags]).Perm ([tags] ++ [notes, properties]))

end Refunds

open Refunds in
theorem Schema.parse_reordered_refunds :
    (∃ ps, schema.parseParams properties.lines = .ok ps ∧
      (∀ l ∈ tags.lines.head?, startsWith "-" l = true) ∧
      schema.parseParams (properties.lines ++ tags.lines) =
        (schema.parseParams tags.lines).map ps.overwrite) ∧
    ∃ tag, schema.parse content = .ok tag ∧ (∃ args decls, MadeOf content args decls) ∧
      MadeOf content ["Refunds"] ([] ++ [notes, properties, tags] ++ []) ∧
      MadeOf reordered ["Refunds"] ([] ++ [tags, notes, properties] ++ []) ∧
      [notes, properties, tags].Perm [tags, notes, properties] ∧
      ([notes, properties, tags].map ParamDecl.name).Nodup ∧
      ∃ params, schema.parse reordered = .ok { tag with params } ∧
        ∀ name, params.get? name = tag.params.get? name := by
  obtain ⟨append, made, reorder⟩ := parse_reordered schema
  have dash : ∀ l ∈ tags.lines.head?, startsWith "-" l = true := by decide
  have distinct : ([notes, properties, tags].map ParamDecl.name).Nodup := by decide
  exact ⟨⟨_, properties_read, dash, append _ _ _ properties_read dash⟩,
    _, content_read, made _ _ content_read, content_made, reordered_made, tags_first, distinct,
    reorder _ _ _ _ _ _ _ _ content_read content_made reordered_made tags_first distinct⟩

end ArchModel
