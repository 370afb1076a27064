import ArchModel.Proofs.Entries
import ArchModel.Proofs.Tag.Delimiters
import ArchModel.Proofs.Tag.Parsed

/-!
# The entries of a block

A parameter with a block type is opened by a line with a dash, its name and no value. The lines
below are its entries as long as they have a colon and no dash.

* `Schema.Opens`: a line opens a parameter, given the lines before it.
* `ParamReader.foldlM_step_entries`: entry lines are put into the open block.
* `ParamReader.Keeps` holds while the block is open with some entries and when it is complete; no
  other line changes them (`Keeps.step`, `Keeps.foldlM`).
* **`Schema.parse_block`**: the entries of the block that is opened last.
* `Schema.not_forall_parse_block`: a line without a colon ends a block as a line with a dash does.
-/

namespace ArchModel

open Text

/-- Whether a line is an entry of the block that is open. -/
def isEntryLine (line : String) : Bool := !startsWith "-" line && containsChar ':' line

/-- The key and the value on a line. -/
def entryOf (line : String) : String × String := (strip (cut ':' line).1, strip (cut ':' line).2)

/-- A line opens a block for a parameter: it has a dash, the name and no value, and no multi-line
value is open behind the lines before it. -/
def Schema.Opens (schema : Schema) (name : String) (before : List String) (line : String) : Prop :=
  headerOf? line = some (name, "") ∧
    ∃ r, schema.readerAfter before = .ok r ∧ r.opened.values = 0

namespace ParamReader

variable {schema : Schema} {r r' : ParamReader} {ps : Entries String ParamValue}
  {line name : String} {lines : List String} {entries : Entries String String}

/-! ## Opening and filling a block -/

theorem finish_of_values (h : r.opened.values = 0) : ∃ ps, r.finish = .ok ps := by
  unfold finish
  cases opened : r.opened with
  | none => exact ⟨_, rfl⟩
  | value name lines => simp [opened] at h
  | block name entries => exact ⟨_, rfl⟩

/-- The line that opens a block leaves it open without entries. -/
theorem step_opens (declared : schema.params.get? name = some .block)
    (header : headerOf? line = some (name, "")) (closed : r.opened.values = 0)
    (h : step schema r line = .ok r') : ∃ ps, r' = { params := ps, opened := .block name ∅ } := by
  obtain ⟨ps, settled⟩ := finish_of_values closed
  have empty : startsWith multiline "" = false := by decide
  rw [step_of_dash settled (startsWith_of_header header), openLine_eq, header] at h
  dsimp only at h
  split at h
  · cases h
  · rw [declared] at h
    simp only [assign, empty, Bool.false_eq_true, if_false] at h
    exact ⟨ps, (Except.ok.inj h).symm⟩

/-- Entry lines are put into the block that is open, one after the other. -/
theorem foldlM_step_entries (lines : List String) (entry : ∀ l ∈ lines, isEntryLine l = true)
    (seen : List String) (opened : r.opened = .block name (.ofList (seen.map entryOf))) :
    lines.foldlM (step schema) r =
      .ok { r with opened := .block name (.ofList ((seen ++ lines).map entryOf)) } := by
  induction lines generalizing r seen with
  | nil =>
    rw [List.append_nil, ← opened]
    rfl
  | cons l lines ih =>
    obtain ⟨hl, hls⟩ := List.forall_mem_cons.1 entry
    have one : step schema r l = .ok { r with
        opened := .block name (.ofList ((seen ++ [l]).map entryOf)) } := by
      rw [List.map_append, List.map_singleton, Entries.ofList_concat]
      rw [isEntryLine] at hl
      simp only [step, opened, hl, if_true]
      rfl
    rw [List.foldlM_cons, one]
    have rest := ih hls (seen ++ [l])
      (r := { r with opened := .block name (.ofList ((seen ++ [l]).map entryOf)) }) rfl
    rw [List.append_assoc, List.singleton_append] at rest
    exact rest

/-! ## Lines below a block -/

/-- The block of a parameter has some entries: it is open with them, or it is complete. -/
def Keeps (name : String) (entries : Entries String String) (r : ParamReader) : Prop :=
  r.opened = .block name entries ∨
    r.params.get? name = some (.block entries) ∧ ∀ e, r.opened ≠ .block name e

theorem Keeps.of_finish (h : Keeps name entries r) (settled : r.finish = .ok ps) :
    ps.get? name = some (.block entries) := by
  unfold finish at settled
  split at settled
  · next opened =>
    obtain rfl := Except.ok.inj settled
    rcases h with isOpen | ⟨complete, -⟩
    · rw [opened] at isOpen
      cases isOpen
    · exact complete
  · cases settled
  · next other e opened =>
    obtain rfl := Except.ok.inj settled
    rcases h with isOpen | ⟨complete, apart⟩
    · rw [opened] at isOpen
      obtain ⟨rfl, rfl⟩ := OpenParam.block.inj isOpen
      rw [Entries.get?_insert, if_pos rfl]
    · have other_ne : other ≠ name := fun same => apart e (same ▸ opened)
      rw [Entries.get?_insert, if_neg other_ne, complete]

/-- The value of another parameter leaves the block as it is. -/
theorem Keeps.of_put {other : String} (h : Keeps name entries r) (settled : r.finish = .ok ps)
    (other_ne : other ≠ name) (v : ParamValue) :
    (ps.insert other v).get? name = some (.block entries) := by
  rw [Entries.get?_insert, if_neg other_ne]
  exact h.of_finish settled

/-- A text is no value of a block. -/
theorem ne_of_convert {other value : String} {type : ValueType} {v : ParamValue}
    (conv : Schema.convert other type value = .ok v) (typed : other = name → type = .block) :
    other ≠ name := by
  intro same
  rw [typed same] at conv
  cases conv

/-- A line that is no entry of the block and does not open it again leaves it complete. -/
theorem Keeps.step (h : Keeps name entries r) (declared : schema.params.get? name = some .block)
    (noEntry : ∀ e, r.opened = .block name e → isEntryLine line = false)
    (noOpening : r.opened.values = 0 → headerOf? line ≠ some (name, ""))
    (read : step schema r line = .ok r') :
    r'.params.get? name = some (.block entries) ∧ ∀ e, r'.opened ≠ .block name e := by
  have complete (apart : ∀ e, r.opened ≠ .block name e) :
      r.params.get? name = some (.block entries) :=
    (h.resolve_left (apart entries)).1
  have typed {other : String} {type : ValueType} (known : schema.params.get? other = some type)
      (same : other = name) : type = .block := by
    rw [same, declared] at known
    exact (Option.some.inj known).symm
  cases step_cases read with
  | more opened cut =>
    exact ⟨complete fun e isOpen => by simp [opened] at isOpen, fun e isOpen => by cases isOpen⟩
  | @close other lines head rest v opened cut conv =>
    have other_ne : other ≠ name := ne_of_convert conv fun same => by rw [same, declared]; rfl
    refine ⟨?_, fun e isOpen => by cases isOpen⟩
    rw [Entries.get?_insert, if_neg other_ne]
    exact complete fun e isOpen => by simp [opened] at isOpen
  | @entry other e opened noDash colon =>
    have other_ne : other ≠ name := by
      rintro rfl
      have := noEntry e opened
      simp [isEntryLine, noDash, colon] at this
    refine ⟨complete fun e' isOpen => ?_, fun e' isOpen => other_ne (OpenParam.block.inj isOpen).1⟩
    rw [opened] at isOpen
    exact other_ne (OpenParam.block.inj isOpen).1
  | skip settled header => exact ⟨h.of_finish settled, fun e isOpen => by cases isOpen⟩
  | plain settled header named known start conv =>
    have other_ne := ne_of_convert conv (typed known)
    exact ⟨h.of_put settled other_ne _, fun e isOpen => by cases isOpen⟩
  | delimited settled header named known start cut conv =>
    have other_ne := ne_of_convert conv (typed known)
    exact ⟨h.of_put settled other_ne _, fun e isOpen => by cases isOpen⟩
  | openValue settled header named known start cut first_eq =>
    exact ⟨h.of_finish settled, fun e isOpen => by cases isOpen⟩
  | @openBlock ps other settled header named known =>
    refine ⟨h.of_finish settled, fun e isOpen => ?_⟩
    have same : other = name := (OpenParam.block.inj isOpen).1
    rw [same] at header
    exact noOpening (values_of_finish settled) header

/-- Lines below the entries leave the block as it is, unless one of them opens it again. -/
theorem Keeps.foldlM (h : Keeps name entries r)
    (declared : schema.params.get? name = some .block)
    (noEntry : ∀ e, r.opened = .block name e → ∀ l ∈ lines.head?, isEntryLine l = false)
    (noOpening : ∀ before line after, lines = before ++ line :: after →
      ∀ r₁, before.foldlM (ParamReader.step schema) r = .ok r₁ → r₁.opened.values = 0 →
        headerOf? line ≠ some (name, ""))
    (run : lines.foldlM (ParamReader.step schema) r = .ok r') : Keeps name entries r' := by
  induction lines generalizing r with
  | nil =>
    obtain rfl := Except.ok.inj run
    exact h
  | cons l lines ih =>
    rw [List.foldlM_cons] at run
    obtain ⟨r₁, one, run⟩ := bind_eq_ok.1 run
    have first := noOpening [] l lines rfl r rfl
    obtain ⟨complete, apart⟩ := h.step declared (fun e isOpen => noEntry e isOpen l rfl) first one
    refine ih (.inr ⟨complete, apart⟩) (fun e isOpen => absurd isOpen (apart e)) ?_ run
    intro before line after whole r₂ reached
    refine noOpening (l :: before) line after (by rw [whole, List.cons_append]) r₂ ?_
    rw [List.foldlM_cons, one]
    exact reached

end ParamReader

/-- **The entries of a block.** A content is accepted, and the last line that opens a block for a
parameter stands in it. Then the parameter has the entries that follow it, up to the first line that
has a dash or no colon; of those with the same key the last one counts. -/
theorem Schema.parse_block {schema : Schema} {content name line : String} {tag : Tag}
    {before after : List String} (accepted : schema.parse content = .ok tag)
    (declared : schema.params.get? name = some .block)
    (whole : contentLines content = before ++ line :: after)
    (opens : schema.Opens name before line)
    (last : ∀ before' line' after', contentLines content = before' ++ line' :: after' →
      schema.Opens name before' line' → before'.length ≤ before.length) :
    ∃ entries, tag.params.get? name = some (.block entries) ∧
      ∀ key value, entries.get? key = some value ↔
        ∃ above below, (after.takeWhile isEntryLine).map entryOf = above ++ (key, value) :: below ∧
          key ∉ below.map Prod.fst := by
  refine ⟨.ofList ((after.takeWhile isEntryLine).map entryOf), ?_,
    fun key value => Entries.get?_ofList_eq_some_iff⟩
  obtain ⟨header, r, reached, closed⟩ := opens
  obtain ⟨-, -, params⟩ := parse_eq_ok accepted
  obtain ⟨r', run, settled⟩ := bind_eq_ok.1 params
  have all : schema.readerAfter (contentLines content) = .ok r' := run
  have parts : after.takeWhile isEntryLine ++ after.dropWhile isEntryLine = after :=
    List.takeWhile_append_dropWhile
  rw [readerAfter_eq] at reached
  rw [readerAfter_eq, whole, foldlM_append_eq_ok] at all
  obtain ⟨r₀, reached₀, all⟩ := all
  obtain rfl : r₀ = r := Except.ok.inj (reached₀.symm.trans reached)
  obtain ⟨r₁, one, all⟩ := foldlM_cons_eq_ok.1 all
  obtain ⟨ps, rfl⟩ := ParamReader.step_opens declared header closed one
  rw [← parts, foldlM_append_eq_ok] at all
  obtain ⟨r₁, own, rest⟩ := all
  have filled : r₁.opened = .block name (.ofList ((after.takeWhile isEntryLine).map entryOf)) := by
    rw [ParamReader.foldlM_step_entries _ (fun l hl => List.mem_takeWhile_imp hl) [] rfl] at own
    rw [← Except.ok.inj own]
    rfl
  have kept := ParamReader.Keeps.foldlM (.inl filled) declared ?_ ?_ rest
  · exact kept.of_finish settled
  · intro e isOpen l hl
    have := List.head?_dropWhile_not isEntryLine after
    rw [hl] at this
    simpa using this
  · -- A later opening would be a line of the content further down.
    intro before' line' after' below r₂ later closed' header'
    have place : contentLines content =
        (before ++ line :: (after.takeWhile isEntryLine ++ before')) ++ line' :: after' := by
      calc contentLines content
          = before ++ line :: (after.takeWhile isEntryLine ++ after.dropWhile isEntryLine) := by
            rw [parts, whole]
        _ = (before ++ line :: (after.takeWhile isEntryLine ++ before')) ++ line' :: after' := by
            rw [below]
            simp
    have behind : schema.readerAfter
        (before ++ line :: (after.takeWhile isEntryLine ++ before')) = .ok r₂ := by
      rw [readerAfter_eq, foldlM_append_eq_ok]
      refine ⟨r₀, reached, foldlM_cons_eq_ok.2 ⟨_, one, ?_⟩⟩
      exact foldlM_append_eq_ok.2 ⟨r₁, own, later⟩
    have := last _ _ _ place ⟨header', r₂, behind, closed'⟩
    simp only [List.length_append, List.length_cons] at this
    omega

/-! ### A block with free text -/

namespace Invoices

/-- A schema with a block. -/
def schema : Schema where
  params := .ofList [("properties", .block)]

/-- A block with a line without a colon between its lines. -/
def content : String := "- properties:\n  owner: a\n  free text\n  sla: 99"

/-- What stands below the line that opens the block. -/
def below : List String := ["owner: a", "free text", "sla: 99"]

theorem content_read : Schema.contentLines content = "- properties:" :: below ∧
    schema.parse content =
      .ok ⟨[], .ofList [("properties", .block (.ofList [("owner", "a")]))]⟩ ∧
    headerOf? "- properties:" = some ("properties", "") ∧
    (∀ l ∈ below, startsWith "-" l = false) ∧
    (below.takeWhile isEntryLine).map entryOf = [("owner", "a")] ∧
    ((below.takeWhile (!startsWith "-" ·)).filter (containsChar ':' ·)).map entryOf =
      [("owner", "a"), ("sla", "99")] := by
  decide +kernel

theorem opens : schema.Opens "properties" [] "- properties:" :=
  ⟨content_read.2.2.1, {}, rfl, rfl⟩

theorem opens_once (before : List String) (line : String) (after : List String)
    (whole : Schema.contentLines content = before ++ line :: after)
    (opens : schema.Opens "properties" before line) : before = [] := by
  obtain ⟨lines_eq, -, -, noDash, -⟩ := content_read
  rw [lines_eq] at whole
  cases before with
  | nil => rfl
  | cons l before =>
    have listed : line ∈ below := by
      rw [(List.cons.inj whole).2]
      exact List.mem_append_right _ List.mem_cons_self
    have header := opens.1
    rw [headerOf?_eq_none_iff.2 (noDash line listed)] at header
    cases header

end Invoices

open Invoices in
theorem Schema.parse_block_invoices :
    (∃ tag, schema.parse content = .ok tag) ∧ schema.Opens "properties" [] "- properties:" ∧
      ∀ tag, schema.parse content = .ok tag → ∃ entries,
        tag.params.get? "properties" = some (.block entries) ∧ entries.get? "owner" = some "a" := by
  obtain ⟨lines_eq, parsed, -, -, kept, -⟩ := content_read
  refine ⟨⟨_, parsed⟩, opens, fun tag accepted => ?_⟩
  obtain ⟨entries, found, iff⟩ := parse_block accepted (by decide) lines_eq opens
    fun before line after whole again => by rw [opens_once before line after whole again]
  exact ⟨entries, found, (iff _ _).2 ⟨[], [], kept, List.not_mem_nil⟩⟩

open Invoices in
/-- Not every line with a colon up to the next line with a dash is an entry: a line without a colon
ends the block, and those below it are passed over. -/
theorem Schema.not_forall_parse_block :
    ¬∀ (schema : Schema) (content name line : String) (tag : Tag) (before after : List String),
      schema.parse content = .ok tag → schema.params.get? name = some .block →
      contentLines content = before ++ line :: after → schema.Opens name before line →
      (∀ before' line' after', contentLines content = before' ++ line' :: after' →
        schema.Opens name before' line' → before' = before) →
      ∃ entries, tag.params.get? name = some (.block entries) ∧
        ∀ key value, entries.get? key = some value ↔ ∃ above below,
          ((after.takeWhile (!startsWith "-" ·)).filter (containsChar ':' ·)).map entryOf =
            above ++ (key, value) :: below ∧ key ∉ below.map Prod.fst := by
  intro all
  obtain ⟨lines_eq, parsed, -, -, -, claimed⟩ := content_read
  obtain ⟨entries, found, iff⟩ := all schema content "properties" "- properties:" _ [] below
    parsed (by decide) lines_eq opens opens_once
  have lost := (iff "sla" "99").2 ⟨[("owner", "a")], [], claimed, List.not_mem_nil⟩
  obtain rfl : Entries.ofList [("owner", "a")] = entries :=
    ParamValue.block.inj (Option.some.inj found)
  exact absurd lost (by decide)

end ArchModel
