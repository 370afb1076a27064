import ArchModel.Proofs.Tag.Reader
import ArchModel.Proofs.Tag.Content

/-!
# What reading can give

The texts, lists and blocks that reading gives are those that writing keeps, up to what writing asks
of arguments and lists (`ArgsFit`, `ListFits`).

* `ParamValue.ReadFrom`: what lines can give a parameter of a type.
* `ParamReader.Inv` holds of the reader after any lines: one line keeps it (`Inv.step`), and so does
  a run (`Inv.foldlM`).
* **`Schema.parse_readFrom`**: what reading gives a tag (`Tag.ReadFrom`).
* `Tag.ReadFrom.canonical`: it is canonical if it is writable.
-/

namespace ArchModel

open Text

/-! ## Parts of a line -/

/-- The name on a line is trimmed, without a colon, and both texts stand on the line. -/
theorem headerOf?_spec {line name value : String} (h : headerOf? line = some (name, value)) :
    (Trimmed name ∧ ':' ∉ name.toList ∧ name.toList <:+: line.toList) ∧
      Trimmed value ∧ value.toList <:+: line.toList := by
  unfold headerOf? at h
  split at h
  · next rest hline =>
    obtain ⟨rfl, rfl⟩ := Prod.mk.inj (Option.some.inj h)
    obtain ⟨noColon, before, behind⟩ := cut_spec ':' (String.ofList rest)
    rw [String.toList_ofList] at before behind
    have inside : rest <:+: line.toList := hline ▸ (List.suffix_cons _ _).isInfix
    refine ⟨⟨trimmed_strip _, fun hm => noColon ?_, ?_⟩, trimmed_strip _, ?_⟩
    · rw [toList_strip] at hm
      exact (isInfix_stripChars _).subset hm
    · rw [toList_strip]
      exact ((isInfix_stripChars _).trans before.isInfix).trans inside
    · rw [toList_strip]
      exact ((isInfix_stripChars _).trans behind.isInfix).trans inside
  · cases h

theorem isParamName_of_header {line name value : String} (oneLine : OneLine line)
    (h : headerOf? line = some (name, value)) (named : name ≠ "") : IsParamName name := by
  obtain ⟨⟨trimmed, noColon, inside⟩, -⟩ := headerOf?_spec h
  exact ⟨named, trimmed, noColon, oneLine.of_subset inside.subset⟩

/-- What stands on a line before three quotes is a piece, unless it is blank. -/
theorem isPiece_strip {line s : String} (oneLine : OneLine line)
    (inside : s.toList <:+: line.toList)
    (noQuotes : ¬multiline.toList <:+: s.toList) (hne : strip s ≠ "") : IsPiece (strip s) := by
  refine ⟨hne, trimmed_strip s, (oneLine.of_subset inside.subset).strip, fun quotes => noQuotes ?_⟩
  rw [toList_strip] at quotes
  exact quotes.trans (isInfix_stripChars _)

theorem infix_afterQuotes {line v : String} (h : v.toList <:+: line.toList) :
    (String.ofList (v.toList.drop 3)).toList <:+: line.toList := by
  rw [String.toList_ofList]
  exact (List.drop_suffix 3 _).isInfix.trans h

theorem mem_listItems {item value : String} (h : item ∈ listItems value) :
    IsItem item ∧ item.toList <:+: value.toList := by
  obtain ⟨hm, hne⟩ := List.mem_filter.1 h
  obtain ⟨s, hs, rfl⟩ := List.mem_map.1 hm
  obtain ⟨part, hpart, rfl⟩ := List.mem_map.1 hs
  obtain ⟨noComma, inside⟩ := mem_splitOn hpart
  rw [IsItem, toList_strip, String.toList_ofList]
  have part : stripChars part <:+: part := isInfix_stripChars part
  exact ⟨⟨by simpa using hne, trimmed_strip _, fun hm => noComma (part.subset hm)⟩,
    part.trans inside⟩

/-- A line without a dash, at its first colon, is an entry. -/
theorem isEntry_of_line {line : String} (trimmed : Trimmed line) (oneLine : OneLine line)
    (noDash : startsWith "-" line = false) :
    IsEntry (strip (cut ':' line).1) (strip (cut ':' line).2) := by
  obtain ⟨noColon, before, behind⟩ := cut_spec ':' line
  refine ⟨⟨trimmed_strip _, trimmed_strip _⟩, ⟨?_, ?_⟩, fun hm => noColon ?_, fun dash => ?_⟩
  · exact (oneLine.of_subset before.subset).strip
  · exact (oneLine.of_subset behind.subset).strip
  · rw [toList_strip] at hm
    exact (isInfix_stripChars _).subset hm
  · -- The key begins as the line does.
    obtain ⟨rest, hr⟩ := before
    cases hk : (cut ':' line).1.toList with
    | nil =>
      rw [toList_strip, hk] at dash
      cases dash
    | cons c cs =>
      have hline : line.toList = c :: (cs ++ rest) := by rw [← hr, hk, List.cons_append]
      have hne : line ≠ "" := by
        rintro rfl
        cases hline
      obtain ⟨d, ds, hd, notBlank⟩ := trimmed.exists_cons hne
      obtain rfl : c = d := (List.cons.inj (hline.symm.trans hd)).1
      rw [toList_strip, hk, stripChars_cons notBlank] at dash
      obtain rfl : c = '-' := Option.some.inj dash
      simp [startsWith, hline] at noDash

/-! ## Values -/

/-- What lines can give a parameter of a type. The items of a list were either divided by commas on
the line of its name, or none of them has three quotes. -/
def ParamValue.ReadFrom (lines : List String) (name : String) : ValueType → ParamValue → Prop
  | .text, .text value => CanonicalText value
  | .list, .list items => (∀ i ∈ items, IsItem i) ∧ ∃ line ∈ lines, ∃ v,
      headerOf? line = some (name, v) ∧
        if startsWith multiline v then ∀ i ∈ items, ¬multiline.toList <:+: i.toList
        else items = listItems v
  | .block, .block entries => ∀ e ∈ entries.toList, IsEntry e.1 e.2
  | _, _ => False

/-- The declared parameters that lines can give. -/
def ParamsReadFrom (schema : Schema) (lines : List String) (ps : Entries String ParamValue) :
    Prop :=
  ∀ name value, ps.get? name = some value → IsParamName name ∧
    ∃ type, schema.params.get? name = some type ∧ value.ReadFrom lines name type

variable {schema : Schema} {lines : List String} {name line : String} {type : ValueType}
  {value : ParamValue} {ps : Entries String ParamValue}

theorem ParamsReadFrom.insert (h : ParamsReadFrom schema lines ps) (hn : IsParamName name)
    (declared : schema.params.get? name = some type) (read : value.ReadFrom lines name type) :
    ParamsReadFrom schema lines (ps.insert name value) := by
  intro name' value' found
  rcases Entries.get?_insert_eq_some found with ⟨rfl, rfl⟩ | found
  · exact ⟨hn, type, declared, read⟩
  · exact h name' value' found

/-- The value that stands on the line of its name. -/
theorem readFrom_plain {v : String} (hm : line ∈ lines) (oneLine : OneLine line)
    (header : headerOf? line = some (name, v)) (start : startsWith multiline v = false)
    (conv : Schema.convert name type v = .ok value) : value.ReadFrom lines name type := by
  obtain ⟨-, trimmed, inside⟩ := headerOf?_spec header
  cases type with
  | text =>
    obtain rfl := Except.ok.inj conv
    exact .line trimmed (oneLine.of_subset inside.subset) start
  | list =>
    obtain rfl := Except.ok.inj conv
    exact ⟨fun i hi => (mem_listItems hi).1, line, hm, v, header, by simp [start, listItems]⟩
  | block => cases conv

/-- The value that stands between delimiters, in pieces under each other. -/
theorem readFrom_pieces {v : String} {pieces : List String} (hm : line ∈ lines)
    (header : headerOf? line = some (name, v)) (start : startsWith multiline v = true)
    (hp : ∀ p ∈ pieces, IsPiece p)
    (conv : Schema.convert name type (join "\n" pieces) = .ok value) :
    value.ReadFrom lines name type := by
  cases type with
  | text =>
    obtain rfl := Except.ok.inj conv
    match pieces, hp with
    | [], _ => exact .line (by decide) (by decide) (by decide)
    | [p], hp =>
      obtain ⟨-, trimmed, oneLine, noQuotes⟩ := hp p (by simp)
      have single : join "\n" [p] = p := rfl
      rw [single]
      refine .line trimmed oneLine (Bool.eq_false_iff.2 fun quotes => noQuotes ?_)
      exact (startsWith_iff.1 quotes).isInfix
    | p :: q :: pieces, hp => exact .lines (by simp) hp
  | list =>
    obtain rfl := Except.ok.inj conv
    refine ⟨fun i hi => (mem_listItems hi).1, line, hm, v, header, ?_⟩
    rw [if_pos start]
    intro i hi quotes
    obtain ⟨p, hpm, inside⟩ := infix_of_infix_join (by decide) (by decide)
      (by simp [multiline])
      (quotes.trans (mem_listItems hi).2)
    exact (hp p hpm).2.2.2 inside
  | block => cases conv

/-- The value that stands between delimiters on the line of its name. -/
theorem readFrom_delimited {v inner rest : String} (hm : line ∈ lines) (oneLine : OneLine line)
    (header : headerOf? line = some (name, v)) (start : startsWith multiline v = true)
    (cut : cutSeq multiline (String.ofList (v.toList.drop 3)) = some (inner, rest))
    (conv : Schema.convert name type (strip inner) = .ok value) :
    value.ReadFrom lines name type := by
  obtain ⟨whole, apart⟩ := cutSeq_eq_some (by decide) cut
  have inside : inner.toList <:+: line.toList := by
    refine List.IsInfix.trans ?_ (infix_afterQuotes (headerOf?_spec header).2.2)
    exact ⟨[], multiline.toList ++ rest.toList, by rw [whole]; simp⟩
  by_cases hne : strip inner = ""
  · have none : ∀ p ∈ ([] : List String), IsPiece p := by simp
    rw [hne] at conv
    exact readFrom_pieces hm header start none conv
  · have piece : ∀ p ∈ [strip inner], IsPiece p := by
      simpa using isPiece_strip oneLine inside apart hne
    exact readFrom_pieces hm header start piece conv

/-- Pieces and a part of a line without three quotes, which is left out if it is blank. -/
theorem forall_isPiece_put {pieces : List String} {part : String} (each : ∀ p ∈ pieces, IsPiece p)
    (oneLine : OneLine line) (inside : part.toList <:+: line.toList)
    (apart : ¬multiline.toList <:+: part.toList) :
    ∀ p ∈ if strip part = "" then pieces else pieces ++ [strip part], IsPiece p := by
  split
  · exact each
  · next hne => simpa [or_imp, forall_and] using ⟨each, isPiece_strip oneLine inside apart hne⟩

/-- A line puts an entry to those of a block. -/
theorem forall_isEntry_insert {entries : Entries String String}
    (each : ∀ e ∈ entries.toList, IsEntry e.1 e.2) {key item : String} (new : IsEntry key item) :
    ∀ e ∈ (entries.insert key item).toList, IsEntry e.1 e.2 := by
  rintro ⟨key', item'⟩ he
  rcases Entries.get?_insert_eq_some (Entries.get?_eq_some_iff.2 he) with ⟨rfl, rfl⟩ | found
  · exact new
  · exact each _ (Entries.get?_eq_some_iff.1 found)

/-! ## The reader -/

namespace ParamReader

variable {r r' : ParamReader}

/-- What the open parameter has of the lines read. -/
def OpenedFrom (schema : Schema) (lines : List String) : OpenParam → Prop
  | .none => True
  | .value name pieces => IsParamName name ∧ (∃ type, schema.params.get? name = some type) ∧
      (∀ p ∈ pieces, IsPiece p) ∧
      ∃ line ∈ lines, ∃ v, headerOf? line = some (name, v) ∧ startsWith multiline v = true
  | .block name entries => IsParamName name ∧ schema.params.get? name = some .block ∧
      ∀ e ∈ entries.toList, IsEntry e.1 e.2

/-- What holds of the reader after some lines. -/
structure Inv (schema : Schema) (lines : List String) (r : ParamReader) : Prop where
  params : ParamsReadFrom schema lines r.params
  opened : OpenedFrom schema lines r.opened

namespace Inv

theorem finish (h : Inv schema lines r) (settled : r.finish = .ok ps) :
    ParamsReadFrom schema lines ps := by
  obtain ⟨params, opened⟩ := r
  cases opened with
  | none =>
    obtain rfl : params = ps := Except.ok.inj settled
    exact h.params
  | value name pieces => cases settled
  | block name entries =>
    obtain rfl : params.insert name (.block entries) = ps := Except.ok.inj settled
    obtain ⟨hn, declared, each⟩ := h.opened
    exact h.params.insert hn declared each

theorem of_opened (h : Inv schema lines r) {o : OpenParam} (opened : r.opened = o) :
    OpenedFrom schema lines o :=
  opened ▸ h.opened

/-- One line keeps what holds of the reader. -/
theorem step (h : Inv schema lines r) (hm : line ∈ lines) (content : line ≠ "" ∧ Trimmed line ∧
    OneLine line) (read : r.step schema line = .ok r') : Inv schema lines r' := by
  obtain ⟨hne, trimmed, oneLine⟩ := content
  cases step_cases read with
  | @more name pieces opened cut =>
    obtain ⟨hn, declared, each, header⟩ := h.of_opened opened
    have piece : IsPiece line :=
      ⟨hne, trimmed, oneLine, (cutSeq_eq_none_iff (by decide)).1 cut⟩
    refine ⟨h.params, hn, declared, ?_, header⟩
    simpa [or_imp, forall_and] using ⟨each, piece⟩
  | @close name pieces head rest v opened cut conv =>
    obtain ⟨hn, ⟨type, declared⟩, each, first, hf, u, header, start⟩ := h.of_opened opened
    obtain ⟨whole, apart⟩ := cutSeq_eq_some (by decide) cut
    have inside : head.toList <:+: line.toList :=
      ⟨[], multiline.toList ++ rest.toList, by simp [whole]⟩
    rw [declared, Option.getD_some] at conv
    have last := forall_isPiece_put each oneLine inside apart
    exact ⟨h.params.insert hn declared (readFrom_pieces hf header start last conv), trivial⟩
  | @entry name entries opened noDash colon =>
    obtain ⟨hn, declared, each⟩ := h.of_opened opened
    exact ⟨h.params, hn, declared,
      forall_isEntry_insert each (isEntry_of_line trimmed oneLine noDash)⟩
  | skip settled header => exact ⟨h.finish settled, trivial⟩
  | plain settled header named declared start conv =>
    exact ⟨(h.finish settled).insert (isParamName_of_header oneLine header named) declared
      (readFrom_plain hm oneLine header start conv), trivial⟩
  | delimited settled header named declared start cut conv =>
    exact ⟨(h.finish settled).insert (isParamName_of_header oneLine header named) declared
      (readFrom_delimited hm oneLine header start cut conv), trivial⟩
  | @openValue ps name type v first settled header named declared start cut first_eq =>
    have none : ∀ p ∈ ([] : List String), IsPiece p := by simp
    subst first_eq
    exact ⟨h.finish settled, isParamName_of_header oneLine header named, ⟨type, declared⟩,
      forall_isPiece_put none oneLine (infix_afterQuotes (headerOf?_spec header).2.2)
        ((cutSeq_eq_none_iff (by decide)).1 cut), line, hm, v, header, start⟩
  | openBlock settled header named declared =>
    exact ⟨h.finish settled, isParamName_of_header oneLine header named, declared,
      fun e he => (List.not_mem_nil he).elim⟩

/-- A run keeps what holds of the reader. -/
theorem foldlM {ls : List String} (h : Inv schema lines r) (sub : ls ⊆ lines)
    (content : ∀ l ∈ ls, l ≠ "" ∧ Trimmed l ∧ OneLine l)
    (read : ls.foldlM (ParamReader.step schema) r = .ok r') : Inv schema lines r' := by
  refine foldlM_invariant (fun r l hl r' h one => ?_) h read
  exact h.step (sub hl) (content l hl) one

end Inv

end ParamReader

/-! ## Tags -/

theorem isInfix_unquote (s : String) : (unquote s).toList <:+: s.toList := by
  unfold unquote
  split
  · next c cs hs =>
    split
    · rw [String.toList_ofList, hs]
      exact (List.dropLast_prefix _).isInfix.trans (List.suffix_cons _ _).isInfix
    · exact List.infix_rfl
  · exact List.infix_rfl

/-- What is read as an argument stands between the bars of the line. -/
theorem Schema.isArgument_of_mem_readArgText {a s : String} (oneLine : OneLine s)
    (h : a ∈ readArgText s) : IsArgument a := by
  rw [readArgText] at h
  split at h
  · cases h
  · obtain ⟨part, hpart, rfl⟩ := List.mem_map.1 h
    obtain ⟨cs, hcs, rfl⟩ := List.mem_map.1 hpart
    obtain ⟨noBar, inside⟩ := mem_splitOn hcs
    rw [toList_strip] at inside
    have short : (unquote (strip (String.ofList cs))).toList <:+: cs := by
      refine (isInfix_unquote _).trans ?_
      rw [toList_strip, String.toList_ofList]
      exact isInfix_stripChars _
    exact ⟨fun hm => noBar (short.subset hm),
      oneLine.of_subset ((short.trans inside).trans (isInfix_stripChars _)).subset⟩

/-- A content is read in two parts, at the first line with a dash. -/
theorem Schema.parse_eq_ok {content : String} {t : Tag} (h : schema.parse content = .ok t) :
    let ls := contentLines content
    let isArg := fun line => !startsWith "-" line
    t.args = readArgText (join " " (ls.takeWhile isArg)) ∧ schema.Accepts t.args ∧
      schema.parseParams (ls.dropWhile isArg) = .ok t.params := by
  unfold parse at h
  dsimp only at h
  generalize hargs : readArgText (join " " ((contentLines content).takeWhile _)) = args at h
  obtain ⟨_, accepted, h⟩ := bind_eq_ok.1 h
  obtain ⟨params, read, h⟩ := bind_eq_ok.1 h
  obtain rfl := Except.ok.inj h
  exact ⟨hargs.symm, checkArgs_eq_ok_iff.1 accepted, read⟩

/-- What lines can give a tag. -/
structure Tag.ReadFrom (schema : Schema) (lines : List String) (t : Tag) : Prop where
  accepted : schema.Accepts t.args
  arguments : ∀ a ∈ t.args, IsArgument a
  params : ParamsReadFrom schema lines t.params

/-- What reading gives a tag. -/
theorem Schema.parse_readFrom {content : String} {t : Tag} (h : schema.parse content = .ok t) :
    t.ReadFrom schema (contentLines content) := by
  obtain ⟨args, accepted, params⟩ := parse_eq_ok h
  refine ⟨accepted, fun a ha => ?_, ?_⟩
  · refine isArgument_of_mem_readArgText (OneLine.join (by decide) fun l hl => ?_) (args ▸ ha)
    exact (mem_contentLines ((List.takeWhile_sublist _).subset hl)).2.2
  · have sub : (contentLines content).dropWhile (fun line => !startsWith "-" line) ⊆
        contentLines content := (List.dropWhile_suffix _).subset
    obtain ⟨r, read, settled⟩ := bind_eq_ok.1 params
    have start : ParamReader.Inv schema (contentLines content) {} :=
      ⟨fun name value found => by simp at found, trivial⟩
    exact (start.foldlM sub (fun l hl => mem_contentLines (sub hl)) read).finish settled

/-- A tag that was read is canonical if it is writable. -/
theorem Tag.ReadFrom.canonical {t : Tag} (h : t.ReadFrom schema lines) (w : t.Writable) :
    t.Canonical schema := by
  refine ⟨h.accepted, h.arguments, w.args, fun name hn => ?_, fun name value found => ?_⟩
  · obtain ⟨value, found⟩ := Entries.mem_keys_iff.1 hn
    exact (h.params name value found).1
  · obtain ⟨-, type, declared, read⟩ := h.params name value found
    refine ⟨type, declared, ?_⟩
    cases type <;> cases value <;> try exact read
    exact ⟨read.1, w.lists name _ found⟩

end ArchModel
