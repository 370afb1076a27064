import ArchModel.Proofs.Tag.Content
import ArchModel.Proofs.Tag.Heads
import ArchModel.Proofs.Tag.Reader
import Mathlib.Algebra.Group.Nat.Even

/-!
# Delimiters of multi-line values

Delimiters are read twice. While a docstring is divided they are counted, and behind an odd number
of them no line is a head. When a block is read, a delimiter opens a value only where the value
begins, the next one closes it, and all others are text.

* `Splitter.Inv` holds while a docstring is divided: a tag line that belongs to the block above it
  stands behind an odd number of delimiters of this block.
* `ParamReader.turns` counts the delimiters of a line that open or close a value, and
  `ParamReader.values_step` says that these alone do it. `Schema.strayFrom` counts the others.
* **`Docstring.open_at_tagLine_iff`**: such a line is read within a value if and only if the number
  of the others before it is even.
-/

namespace ArchModel

open Text

/-- The number of delimiters on some lines. -/
def delimiters : List String → Nat
  | [] => 0
  | line :: lines => countSeq multiline line + delimiters lines

theorem delimiters_append (ls ms : List String) :
    delimiters (ls ++ ms) = delimiters ls + delimiters ms := by
  induction ls with
  | nil => simp [delimiters]
  | cons l ls ih => rw [List.cons_append, delimiters, delimiters, ih, Nat.add_assoc]

theorem delimiters_reverse (ls : List String) : delimiters ls.reverse = delimiters ls := by
  induction ls with
  | nil => rfl
  | cons l ls ih =>
    rw [List.reverse_cons, delimiters_append, ih, delimiters, delimiters, delimiters]
    omega

/-- A sum is odd if one of the numbers is, and not both. -/
theorem bne_odd (m n : Nat) : ((m % 2 == 1) != (n % 2 == 1)) = ((n + m) % 2 == 1) := by
  rw [Bool.eq_iff_iff, bne_iff_ne, Ne, Bool.eq_iff_iff, beq_iff_eq, beq_iff_eq, beq_iff_eq]
  omega

/-! ## Delimiters of a text -/

theorem countSeq_strip (s : String) : countSeq multiline (strip s) = countSeq multiline s := by
  rw [countSeq, toList_strip]
  exact countSeqChars_multiline_stripChars s.toList

/-- The lines of a text have its delimiters. -/
theorem delimiters_linesFrom (current cs : List Char) :
    delimiters ((linesFrom current cs).map String.ofList) =
      countSeqChars multiline.toList (current.reverse ++ cs) := by
  have apart {c : Char} (h : isLineBreak c = true) : c ∉ multiline.toList := by
    intro hc
    obtain rfl := eq_of_mem_multiline hc
    exact absurd h (by decide)
  fun_induction linesFrom current cs with
  | case1 current none =>
    rw [List.isEmpty_iff.1 none]
    simp [delimiters, countSeqChars]
  | case2 current => simp [delimiters, countSeq]
  | case3 current cs ih =>
    have feed : countSeqChars multiline.toList (['\n'] ++ cs) =
        countSeqChars multiline.toList cs :=
      countSeqChars_append_left (by simpa using apart (by decide))
    rw [List.singleton_append] at feed
    rw [List.map_cons, delimiters, ih, countSeqChars_append_cons (apart (by decide)), feed]
    simp [countSeq]
  | case4 current c cs _ hc ih =>
    rw [List.map_cons, delimiters, ih, countSeqChars_append_cons (apart hc)]
    simp [countSeq]
  | case5 current c cs _ hc ih => simpa using ih

/-- Trimming the lines of a content and leaving out blank ones leaves out no delimiter. -/
theorem delimiters_contentLines (content : String) :
    delimiters (Schema.contentLines content) = countSeq multiline content := by
  have kept (ls : List String) :
      delimiters ((ls.map strip).filter (· ≠ "")) = delimiters ls := by
    induction ls with
    | nil => rfl
    | cons l ls ih =>
      rw [List.map_cons, delimiters, ← countSeq_strip l]
      by_cases blank : strip l = ""
      · have none : countSeq multiline (strip l) = 0 := by
          rw [blank]
          simp [countSeq, countSeqChars]
        rw [List.filter_cons_of_neg (by simpa using blank), ih, none, Nat.zero_add]
      · rw [List.filter_cons_of_pos (by simpa using blank), delimiters, ih]
  have whole := delimiters_linesFrom [] content.toList
  rw [List.reverse_nil, List.nil_append] at whole
  rw [Schema.contentLines, kept]
  exact whole

theorem delimiters_flatMap_contentLines (texts : List String) :
    delimiters (texts.flatMap Schema.contentLines) = delimiters texts := by
  induction texts with
  | nil => rfl
  | cons s texts ih =>
    rw [List.flatMap_cons, delimiters_append, ih, delimiters_contentLines, delimiters]

namespace Docstring

/-! ## Dividing a docstring -/

/-- Among the lines of a block, last first, every tag line but the head stands behind an odd number
of delimiters. -/
def OddAbove (lines : List String) : Prop :=
  ∀ below line above, lines = below ++ line :: above → above ≠ [] →
    (head? (strip line)).isSome → delimiters above % 2 = 1

theorem oddAbove_singleton (line : String) : OddAbove [line] := by
  intro below line' above whole hne
  cases below with
  | nil => exact absurd (List.cons.inj whole).2.symm hne
  | cons l below =>
    have := congrArg List.length whole
    simp at this

theorem OddAbove.cons {line : String} {lines : List String} (h : OddAbove lines)
    (odd : (head? (strip line)).isSome → delimiters lines % 2 = 1) :
    OddAbove (line :: lines) := by
  intro below line' above whole hne tagLine
  cases below with
  | nil =>
    obtain ⟨rfl, rfl⟩ := List.cons.inj whole
    exact odd tagLine
  | cons l below => exact h below line' above (List.cons.inj whole).2 hne tagLine

namespace Splitter

/-- What holds while a docstring is divided. -/
structure Inv (s : Splitter) : Prop where
  /-- A value counts as open behind an odd number of delimiters of the last block. -/
  inValue : ∀ b ∈ s.blocks.head?, s.inValue = (delimiters b.lines % 2 == 1)
  oddAbove : ∀ b ∈ s.blocks, OddAbove b.lines
  oneLine : ∀ b ∈ s.blocks, ∀ line ∈ b.lines, OneLine line

/-- A head begins a block. -/
theorem Inv.begin {s : Splitter} (h : Inv s) {line name rest : String} (hl : OneLine line)
    (closed : s.inValue = false) (head : head? (strip line) = some (name, rest)) (position : Nat) :
    Inv (toggle { s with blocks := ⟨name, position, [rest]⟩ :: s.blocks } (strip line)) := by
  obtain ⟨count, sub⟩ := countSeq_of_head? head
  have restLine : OneLine rest := hl.strip.of_subset sub
  refine ⟨?_, ?_, ?_⟩
  · simp [toggle, closed, delimiters, count]
  · simpa [toggle] using ⟨oddAbove_singleton rest, h.oddAbove⟩
  · simpa [toggle] using ⟨restLine, h.oneLine⟩

/-- Every other line goes on with the last block. -/
theorem Inv.goOn {s : Splitter} (h : Inv s) {b : TagBlock} {bs : List TagBlock}
    (blocks : s.blocks = b :: bs) {line : String} (hl : OneLine line)
    (free : s.inValue = false → head? (strip line) = none) :
    Inv (toggle { s with blocks := { b with lines := line :: b.lines } :: bs } (strip line)) := by
  have current : s.inValue = (delimiters b.lines % 2 == 1) := h.inValue b (by simp [blocks])
  have own : b ∈ s.blocks := by simp [blocks]
  have older : ∀ b' ∈ bs, b' ∈ s.blocks := fun b' hb' => by simp [blocks, hb']
  have odd : (head? (strip line)).isSome → delimiters b.lines % 2 = 1 := by
    intro tagLine
    by_contra even
    rw [free (by simpa [current] using even)] at tagLine
    cases tagLine
  refine ⟨?_, ?_, ?_⟩
  · intro b' hb'
    obtain rfl := Option.some.inj hb'
    simp only [toggle, current, countSeq_strip, bne_odd, delimiters]
  · simp only [toggle, List.forall_mem_cons]
    exact ⟨(h.oddAbove b own).cons odd, fun b' hb' => h.oddAbove b' (older b' hb')⟩
  · simp only [toggle, List.forall_mem_cons]
    exact ⟨⟨hl, h.oneLine b own⟩, fun b' hb' => h.oneLine b' (older b' hb')⟩

theorem Inv.step {s : Splitter} (h : Inv s) {line : String} (hl : OneLine line) (position : Nat) :
    Inv (s.step line position) := by
  unfold Splitter.step
  dsimp only
  split
  · next name rest head =>
    obtain ⟨closed, head⟩ := Option.ite_none_left_eq_some.1 head
    exact h.begin hl (by simpa using closed) head position
  · next none =>
    have free : s.inValue = false → head? (strip line) = .none := by
      intro closed
      simpa [closed] using none
    split
    · next start =>
      split
      · exact h
      · exact ⟨by simp [start], by simp [start], by simp [start]⟩
    · next b bs blocks => exact h.goOn blocks hl free

theorem Inv.foldl {lines : List (String × Nat)} (hl : ∀ x ∈ lines, OneLine x.1) {s : Splitter}
    (h : Inv s) : Inv (lines.foldl (fun s x => s.step x.1 x.2) s) := by
  induction lines generalizing s with
  | nil => exact h
  | cons x lines ih =>
    obtain ⟨hx, hl⟩ := List.forall_mem_cons.1 hl
    exact ih hl (h.step hx x.2)

theorem Inv.finish {s : Splitter} (h : Inv s) {b : TagBlock} (hb : b ∈ s.finish.blocks) :
    OddAbove b.lines.reverse ∧ ∀ line ∈ b.lines, OneLine line := by
  obtain ⟨b', hb', rfl⟩ := List.mem_map.1 hb
  have listed := List.mem_reverse.1 hb'
  constructor
  · rw [List.reverse_reverse]
    exact h.oddAbove b' listed
  · simpa using h.oneLine b' listed

end Splitter

/-- What is known of the lines of a block. -/
theorem lines_of_mem_split {text : String} {b : TagBlock} (hb : b ∈ (split text).blocks) :
    OddAbove b.lines.reverse ∧ ∀ line ∈ b.lines, OneLine line := by
  refine Splitter.Inv.finish (Splitter.Inv.foldl (fun x hx => ?_) ?_) hb
  · exact oneLine_of_mem_lines (List.fst_mem_of_mem_zipIdx hx)
  · exact ⟨by simp, by simp, by simp⟩

end Docstring

/-! ## Reading a block -/

namespace OpenParam

/-- The number of multi-line values that are open. -/
def values : OpenParam → Nat
  | value _ _ => 1
  | _ => 0

@[simp] theorem values_none : none.values = 0 := rfl

@[simp] theorem values_value (name : String) (lines : List String) :
    (value name lines).values = 1 := rfl

@[simp] theorem values_block (name : String) (entries : Entries String String) :
    (block name entries).values = 0 := rfl

theorem values_eq_one_iff {o : OpenParam} : o.values = 1 ↔ ∃ name lines, o = value name lines := by
  cases o <;> simp

theorem values_le_one (o : OpenParam) : o.values ≤ 1 := by
  cases o <;> simp

end OpenParam

namespace ParamReader

variable {schema : Schema} {r r' : ParamReader} {line : String} {lines : List String}

/-- How many delimiters open a value where it begins, and close it on the same line. -/
def turnsOf (value : String) : Nat :=
  if startsWith multiline value then
    if (cutSeq multiline (String.ofList (value.toList.drop 3))).isSome then 2 else 1
  else 0

/-- How many delimiters of a line open or close a value. -/
def turns (r : ParamReader) (line : String) : Nat :=
  if r.opened.values = 1 then if (cutSeq multiline line).isSome then 1 else 0
  else (headerOf? line).elim 0 fun x => turnsOf x.2

theorem countSeq_pos_of_cutSeq {s : String} (h : (cutSeq multiline s).isSome) :
    0 < countSeq multiline s := by
  refine countSeqChars_pos (by decide) ?_
  by_contra apart
  rw [(cutSeq_eq_none_iff (by decide)).2 apart] at h
  cases h

theorem turnsOf_le (value : String) : turnsOf value ≤ countSeq multiline value := by
  unfold turnsOf
  split
  · next start =>
    obtain ⟨rest, whole⟩ := startsWith_iff.1 start
    have count : countSeq multiline value = 1 + countSeqChars multiline.toList rest := by
      rw [countSeq, ← whole, countSeqChars_append (by decide)]
    have rest_eq : value.toList.drop 3 = rest := by
      rw [← whole]
      rfl
    rw [rest_eq]
    split
    · next closed =>
      have := countSeq_pos_of_cutSeq closed
      rw [countSeq, String.toList_ofList] at this
      omega
    · omega
  · exact Nat.zero_le _

/-- The value on a line has no more delimiters than the line. -/
theorem countSeq_le_of_headerOf? {name value : String} (h : headerOf? line = some (name, value)) :
    countSeq multiline value ≤ countSeq multiline line := by
  unfold headerOf? at h
  split at h
  · next rest chars =>
    obtain ⟨-, rfl⟩ := Prod.mk.inj (Option.some.inj h)
    rw [countSeq_strip]
    by_cases colon : ':' ∈ rest
    · obtain ⟨a, b, rfl, ha⟩ := List.eq_append_cons_of_mem colon
      rw [cut_of_toList String.toList_ofList ha, countSeq, countSeq, chars, ← List.cons_append,
        countSeqChars_append_cons (by decide), String.toList_ofList]
      omega
    · rw [cut_of_notMem (by simpa using colon)]
      simp [countSeq, countSeqChars]
  · cases h

/-- A line has the delimiters that open or close a value. -/
theorem turns_le (r : ParamReader) (line : String) : r.turns line ≤ countSeq multiline line := by
  unfold turns
  split
  · split
    · next closed => exact countSeq_pos_of_cutSeq closed
    · exact Nat.zero_le _
  · cases header : headerOf? line with
    | none => exact Nat.zero_le _
    | some x => exact (turnsOf_le x.2).trans (countSeq_le_of_headerOf? header)

theorem values_of_finish {ps : Entries String ParamValue} (h : r.finish = .ok ps) :
    r.opened.values = 0 := by
  unfold finish at h
  split at h
  · next opened => rw [opened, OpenParam.values_none]
  · cases h
  · next opened => rw [opened, OpenParam.values_block]

/-- A value is opened or closed by these delimiters and by nothing else. -/
theorem values_step (h : step schema r line = .ok r') :
    r'.opened.values = (r.opened.values + r.turns line) % 2 := by
  unfold turns
  cases step_cases h with
  | more opened cut => simp [opened, cut]
  | close opened cut _ => simp [opened, cut]
  | entry opened noDash _ =>
    simp [opened, headerOf?_eq_none_iff.2 noDash]
  | skip before header => simp [values_of_finish before, header]
  | plain before header _ _ start _ =>
    simp [values_of_finish before, header, turnsOf, start]
  | delimited before header _ _ start cut _ =>
    simp [values_of_finish before, header, turnsOf, start, cut]
  | openValue before header _ _ start cut _ =>
    simp [values_of_finish before, header, turnsOf, start, cut]
  | openBlock before header _ _ =>
    have none : turnsOf "" = 0 := by decide
    simp [values_of_finish before, header, none]

end ParamReader

namespace Schema

variable {schema : Schema} {r r' : ParamReader} {line : String} {lines : List String}

/-- How many delimiters neither open nor close a value where lines are read. -/
def strayFrom (schema : Schema) (r : ParamReader) : List String → Nat
  | [] => 0
  | line :: lines => (countSeq multiline line - r.turns line) +
      match ParamReader.step schema r line with
      | .ok r' => strayFrom schema r' lines
      | .error _ => 0

/-- What the first lines of a content leave open; the lines before the first dash are arguments. -/
def readerAfter (schema : Schema) (lines : List String) : Except SchemaError ParamReader :=
  (lines.dropWhile fun line => !startsWith "-" line).foldlM (ParamReader.step schema) {}

/-- A value is open behind lines if there is an odd number of delimiters other than the stray
ones. -/
theorem values_foldlM (run : lines.foldlM (ParamReader.step schema) r = .ok r') :
    r'.opened.values % 2 =
      (r.opened.values + delimiters lines + schema.strayFrom r lines) % 2 := by
  induction lines generalizing r with
  | nil =>
    obtain rfl := Except.ok.inj run
    rfl
  | cons line lines ih =>
    rw [List.foldlM_cons] at run
    obtain ⟨r₁, one, run⟩ := bind_eq_ok.1 run
    have rest := ih run
    have here := ParamReader.values_step one
    have enough := r.turns_le line
    simp only [delimiters, strayFrom, one]
    omega

/-- Arguments are passed over as lines without a dash are. -/
theorem readerAfter_eq (schema : Schema) (lines : List String) :
    schema.readerAfter lines = lines.foldlM (ParamReader.step schema) {} := by
  induction lines with
  | nil => rfl
  | cons line lines ih =>
    unfold readerAfter at ih ⊢
    cases dash : startsWith "-" line with
    | true => rw [List.dropWhile_cons_of_neg (by simp [dash])]
    | false =>
      have skipped : ParamReader.step schema {} line = .ok {} := by
        simp [ParamReader.step, ParamReader.openLine_eq, headerOf?_eq_none_iff.2 dash]
      rw [List.dropWhile_cons_of_pos (by simp [dash]), ih, List.foldlM_cons, skipped]
      rfl

theorem exists_readerAfter_of_parse {content : String} {tag : Tag}
    (accepted : schema.parse content = .ok tag) {before after : List String}
    (whole : contentLines content = before ++ after) :
    ∃ r, schema.readerAfter before = .ok r := by
  obtain ⟨_, -, rest⟩ := bind_eq_ok.1 accepted
  obtain ⟨params, read, -⟩ := bind_eq_ok.1 rest
  obtain ⟨r, run, -⟩ := bind_eq_ok.1 read
  have all : schema.readerAfter (contentLines content) = .ok r := run
  rw [readerAfter_eq, whole, List.foldlM_append] at all
  obtain ⟨r₁, first, -⟩ := bind_eq_ok.1 all
  exact ⟨r₁, by rw [readerAfter_eq, first]⟩

end Schema

/-! ## Tag lines within blocks -/

namespace Docstring

section within

variable {text : String} {b : TagBlock} (hb : b ∈ (split text).blocks) {first line : String}
  {before after : List String} (whole : b.lines = first :: before ++ line :: after)
  (tagLine : (head? (strip line)).isSome)

include hb whole tagLine

/-- The line is read as one line, behind those above it. -/
theorem contentLines_at_tagLine :
    Schema.contentLines b.content = Schema.contentLines (join "\n" (first :: before)) ++
      strip line :: Schema.contentLines (join "\n" after) := by
  have own : OneLine line := (lines_of_mem_split hb).2 line (by simp [whole])
  have notBlank : strip line ≠ "" := by
    intro blank
    rw [blank] at tagLine
    exact absurd tagLine (by decide)
  have here : (line :: after).flatMap Schema.contentLines =
      strip line :: Schema.contentLines (join "\n" after) := by
    rw [List.flatMap_cons, Schema.contentLines_of_oneLine own, if_neg notBlank,
      Schema.contentLines_join]
    rfl
  rw [TagBlock.content, whole, Schema.contentLines_join, List.flatMap_append, here,
    ← Schema.contentLines_join]

/-- The lines above it have an odd number of delimiters. -/
theorem odd_delimiters_above :
    delimiters (Schema.contentLines (join "\n" (first :: before))) % 2 = 1 := by
  have split : b.lines.reverse = after.reverse ++ line :: (first :: before).reverse := by
    rw [whole]
    simp
  have odd := (lines_of_mem_split hb).1 _ _ _ split (by simp) tagLine
  rwa [delimiters_reverse, ← delimiters_flatMap_contentLines, ← Schema.contentLines_join] at odd

end within

/-- **A tag line within the block of another tag** is read within a multi-line value if and only if
there is an even number of delimiters before it in its block that neither open nor close a value. -/
theorem open_at_tagLine_iff {text : String} {b : TagBlock} (hb : b ∈ (split text).blocks)
    {schema : Schema} {tag : Tag} (accepted : schema.parse b.content = .ok tag)
    {first line : String} {before after : List String}
    (whole : b.lines = first :: before ++ line :: after) (tagLine : (head? (strip line)).isSome) :
    let above := Schema.contentLines (join "\n" (first :: before))
    Schema.contentLines b.content =
        above ++ strip line :: Schema.contentLines (join "\n" after) ∧
      ∃ r, schema.readerAfter above = .ok r ∧
        ((∃ name lines, r.opened = .value name lines) ↔ Even (schema.strayFrom {} above)) := by
  intro above
  have read : Schema.contentLines b.content =
      above ++ strip line :: Schema.contentLines (join "\n" after) :=
    contentLines_at_tagLine hb whole tagLine
  obtain ⟨r, run⟩ := Schema.exists_readerAfter_of_parse accepted read
  refine ⟨read, r, run, ?_⟩
  have odd : delimiters above % 2 = 1 := odd_delimiters_above hb whole tagLine
  rw [Schema.readerAfter_eq] at run
  have values := Schema.values_foldlM run
  rw [OpenParam.values_none] at values
  have atMost := r.opened.values_le_one
  rw [← OpenParam.values_eq_one_iff, Nat.even_iff]
  omega

end Docstring

/-! ### Two docstrings with a tag line within a block -/

namespace Billing

/-- The schema of the blocks. -/
def schema : Schema where
  args := [⟨.text, false⟩, ⟨.text, false⟩]
  params := .ofList [("url", .text)]

/-- The block with the tag line in a value. -/
def valued : TagBlock where
  name := "c4Relation"
  offset := 0
  lines := ["", "Billing | Charges", "- url: \"\"\"", "@c4Component", "\"\"\""]

/-- The block with the tag line behind a delimiter in an argument. -/
def quoted : TagBlock where
  name := "c4Relation"
  offset := 0
  lines := ["", "Billing | Charges \"\"\"", "@c4Component"]

end Billing

open Billing in
/-- A tag line in a value. -/
theorem Docstring.open_at_tagLine_iff_valued :
    valued ∈ (split ("@c4Relation" ++ valued.content)).blocks ∧
      ∃ r, schema.readerAfter ["Billing | Charges", "- url: \"\"\""] = .ok r ∧
        ∃ name lines, r.opened = .value name lines := by
  have given : valued ∈ (split ("@c4Relation" ++ valued.content)).blocks := by decide +kernel
  have accepted : schema.parse valued.content =
      .ok ⟨["Billing", "Charges"], .ofList [("url", .text "@c4Component")]⟩ := by decide +kernel
  have whole : valued.lines =
      "" :: ["Billing | Charges", "- url: \"\"\""] ++ "@c4Component" :: ["\"\"\""] := rfl
  obtain ⟨-, r, run, open_iff⟩ := open_at_tagLine_iff given accepted whole (by decide +kernel)
  have none : schema.strayFrom {} (Schema.contentLines
      (join "\n" ["", "Billing | Charges", "- url: \"\"\""])) = 0 := by decide +kernel
  refine ⟨given, r, run, open_iff.2 ?_⟩
  rw [none]
  decide

open Billing in
/-- A tag line may belong to the block of another tag without being in a value: a delimiter in an
argument opens no value, but the line behind it is no head. -/
theorem Docstring.not_forall_open_at_tagLine :
    ¬∀ (text : String) (b : TagBlock) (schema : Schema) (tag : Tag) (first line : String)
      (before after : List String), b ∈ (split text).blocks → schema.parse b.content = .ok tag →
      b.lines = first :: before ++ line :: after → (head? (strip line)).isSome →
      ∃ r, schema.readerAfter (Schema.contentLines (join "\n" (first :: before))) = .ok r ∧
        ∃ name lines, r.opened = .value name lines := by
  intro all
  have given : quoted ∈ (split ("@c4Relation" ++ quoted.content)).blocks := by decide +kernel
  have accepted : schema.parse quoted.content =
      .ok ⟨["Billing", "Charges \"\"\" @c4Component"], ∅⟩ := by decide +kernel
  have whole : quoted.lines =
      "" :: ["Billing | Charges \"\"\""] ++ "@c4Component" :: [] := rfl
  obtain ⟨r, run, name, lines, opened⟩ := all _ _ _ _ _ _ _ _ given accepted whole
    (by decide +kernel)
  have closed : schema.readerAfter (Schema.contentLines
      (join "\n" ["", "Billing | Charges \"\"\""])) = .ok {} := by decide +kernel
  rw [closed] at run
  obtain rfl := Except.ok.inj run
  cases opened

end ArchModel
