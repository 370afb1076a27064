import ArchModel.Proofs.Except
import ArchModel.Proofs.Tag.Canonical

/-!
# Reading parameter lines

* `headerOf?` are the name and the value on a line with a dash, and `ParamReader.openLine_eq` says
  that such a line is read by these alone.
* `ParamReader.step_of_dash`: a line with a dash ends a block.
* `ParamReader.foldlM_step_more`: lines without three quotes are put to the value that is open.
* `ParamReader.Step` lists all that one line can do, and `ParamReader.step_cases` says that it does
  nothing else.
-/

namespace ArchModel

open Text

/-- The name and the value on a line with a dash. -/
def headerOf? (line : String) : Option (String × String) :=
  match line.toList with
  | '-' :: rest =>
    some (strip (cut ':' (String.ofList rest)).1, strip (cut ':' (String.ofList rest)).2)
  | _ => none

theorem headerOf?_of_toList {line : String} {rest : List Char} (h : line.toList = '-' :: rest) :
    headerOf? line =
      some (strip (cut ':' (String.ofList rest)).1, strip (cut ':' (String.ofList rest)).2) := by
  simp only [headerOf?, h]

theorem headerOf?_eq_none_iff {line : String} :
    headerOf? line = none ↔ startsWith "-" line = false := by
  unfold headerOf?
  split
  · next rest h => simp [startsWith, h]
  · next h =>
    refine iff_of_true rfl (Bool.eq_false_iff.2 fun dash => ?_)
    obtain ⟨rest, hr⟩ := startsWith_iff.1 dash
    exact h rest hr.symm

theorem startsWith_of_header {line name value : String} (h : headerOf? line = some (name, value)) :
    startsWith "-" line = true := by
  by_contra noDash
  rw [headerOf?_eq_none_iff.2 (by simpa using noDash)] at h
  cases h

theorem toList_strip_header (name tail : String) :
    (strip ("- " ++ name ++ ":" ++ tail)).toList =
      '-' :: (' ' :: name.toList ++ ':' :: stripEndChars tail.toList) := by
  have chars : ("- " ++ name ++ ":" ++ tail).toList =
      '-' :: ((' ' :: name.toList) ++ ':' :: tail.toList) := by simp
  rw [toList_strip, chars, stripChars_cons (by decide), stripEndChars_append_cons (by decide)]

theorem startsWith_strip_header (name tail : String) :
    startsWith "-" (strip ("- " ++ name ++ ":" ++ tail)) = true := by
  rw [startsWith_iff, toList_strip_header]
  simp

/-- The name and the value of a parameter line, as they were written. -/
theorem headerOf?_strip {name : String} (h : ':' ∉ name.toList) (tail : String) :
    headerOf? (strip ("- " ++ name ++ ":" ++ tail)) = some (strip name, strip tail) := by
  have parts := cut_of_toList (s := String.ofList (' ' :: name.toList ++ ':' ::
    stripEndChars tail.toList)) String.toList_ofList (by simpa using h)
  have left : strip (String.ofList (' ' :: name.toList)) = strip name := by
    rw [← String.toList_inj]
    simpa using stripChars_append_left_of_blank (a := [' ']) (by decide)
  have right : strip (String.ofList (stripEndChars tail.toList)) = strip tail := by
    rw [← String.toList_inj]
    simp
  rw [headerOf?_of_toList (toList_strip_header name tail), parts, left, right]

/-- The items that stand in a text between commas. -/
def listItems (value : String) : List String := ((split ',' value).map strip).filter (· ≠ "")

namespace ParamReader

variable {schema : Schema} {r r' : ParamReader} {ps : Entries String ParamValue} {line : String}

/-- Set a declared parameter to a value, or open it. -/
def assign (ps : Entries String ParamValue) (name : String) (type : ValueType) (value : String) :
    Except SchemaError ParamReader :=
  if startsWith multiline value then
    match cutSeq multiline (String.ofList (value.toList.drop 3)) with
    | some (inner, _) => do
      let v ← Schema.convert name type (strip inner)
      return { params := ps.insert name v }
    | none =>
      let first := strip (String.ofList (value.toList.drop 3))
      return { params := ps, opened := .value name (if first = "" then [] else [first]) }
  else if value = "" && type == .block then
    return { params := ps, opened := .block name ∅ }
  else do
    let v ← Schema.convert name type value
    return { params := ps.insert name v }

/-- A line is read by its name and its value alone. -/
theorem openLine_eq (schema : Schema) (ps : Entries String ParamValue) (line : String) :
    openLine schema ps line =
      match headerOf? line with
      | none => .ok { params := ps }
      | some (name, value) =>
        if name = "" then .error (.namelessParam line)
        else match schema.params.get? name with
          | none => .error (.unknownParam name)
          | some type => assign ps name type value := by
  unfold openLine
  split
  · next rest h =>
    rw [headerOf?_of_toList h]
    obtain ⟨name, value⟩ := cut ':' (String.ofList rest)
    by_cases named : strip name = ""
    · simp only [if_pos named]
      rfl
    · simp only [if_neg named]
      cases schema.params.get? (strip name) with
      | none => rfl
      | some type =>
        unfold assign
        generalize strip value = value
        cases startsWith multiline value with
        | true => cases cutSeq multiline (String.ofList (value.toList.drop 3)) <;> rfl
        | false => rfl
  · next h =>
    have none : headerOf? line = none := by
      unfold headerOf?
      split
      · next rest hr => exact absurd hr (h rest)
      · rfl
    rw [none]
    rfl

/-- A line with a dash ends a block and is read for itself. -/
theorem step_of_dash (hr : r.finish = .ok ps) (dash : startsWith "-" line = true) :
    step schema r line = openLine schema ps line := by
  obtain ⟨params, opened⟩ := r
  cases opened with
  | none =>
    obtain rfl : params = ps := Except.ok.inj hr
    rfl
  | value name lines => cases hr
  | block name entries =>
    obtain rfl : params.insert name (.block entries) = ps := Except.ok.inj hr
    simp [step, dash]

/-- Lines without three quotes are put to the multi-line value that is open. -/
theorem foldlM_step_more {name : String} {more : List String}
    (apart : ∀ l ∈ more, ¬multiline.toList <:+: l.toList) (lines : List String) :
    more.foldlM (step schema) { params := ps, opened := .value name lines } =
      .ok { params := ps, opened := .value name (lines ++ more) } := by
  induction more generalizing lines with
  | nil => simp [pure, Except.pure]
  | cons l more ih =>
    obtain ⟨hl, hls⟩ := List.forall_mem_cons.1 apart
    have goesOn : cutSeq multiline l = none := (cutSeq_eq_none_iff (by decide)).2 hl
    have one : step schema { params := ps, opened := .value name lines } l =
        .ok { params := ps, opened := .value name (lines ++ [l]) } := by
      simp only [step, goesOn]
      rfl
    rw [List.foldlM_cons, one]
    exact (ih hls _).trans (by simp)

/-- All that one line can do. -/
inductive Step (schema : Schema) (r : ParamReader) (line : String) : ParamReader → Prop
  /-- A multi-line value goes on. -/
  | more {name lines} (opened : r.opened = .value name lines) (cut : cutSeq multiline line = none) :
      Step schema r line { r with opened := .value name (lines ++ [line]) }
  /-- A multi-line value ends. -/
  | close {name lines head rest v} (opened : r.opened = .value name lines)
      (cut : cutSeq multiline line = some (head, rest))
      (conv : Schema.convert name ((schema.params.get? name).getD .text)
        (join "\n" (if strip head = "" then lines else lines ++ [strip head])) = .ok v) :
      Step schema r line { params := r.params.insert name v }
  /-- A block gets an entry. -/
  | entry {name entries} (opened : r.opened = .block name entries)
      (noDash : startsWith "-" line = false) (colon : containsChar ':' line = true) :
      Step schema r line { r with
        opened := .block name
          (entries.insert (strip (cut ':' line).1) (strip (cut ':' line).2)) }
  /-- A line without a dash is passed over. -/
  | skip {ps : _} (settled : r.finish = .ok ps) (header : headerOf? line = none) :
      Step schema r line { params := ps }
  /-- A parameter is set to what stands on its line. -/
  | plain {ps : _} {name type value v} (settled : r.finish = .ok ps)
      (header : headerOf? line = some (name, value)) (named : name ≠ "")
      (declared : schema.params.get? name = some type)
      (start : startsWith multiline value = false)
      (conv : Schema.convert name type value = .ok v) :
      Step schema r line { params := ps.insert name v }
  /-- A parameter is set to what stands on its line between delimiters. -/
  | delimited {ps : _} {name type value inner rest v} (settled : r.finish = .ok ps)
      (header : headerOf? line = some (name, value)) (named : name ≠ "")
      (declared : schema.params.get? name = some type)
      (start : startsWith multiline value = true)
      (cut : cutSeq multiline (String.ofList (value.toList.drop 3)) = some (inner, rest))
      (conv : Schema.convert name type (strip inner) = .ok v) :
      Step schema r line { params := ps.insert name v }
  /-- A multi-line value begins. -/
  | openValue {ps : _} {name type value first} (settled : r.finish = .ok ps)
      (header : headerOf? line = some (name, value)) (named : name ≠ "")
      (declared : schema.params.get? name = some type)
      (start : startsWith multiline value = true)
      (cut : cutSeq multiline (String.ofList (value.toList.drop 3)) = none)
      (first_eq : first = strip (String.ofList (value.toList.drop 3))) :
      Step schema r line
        { params := ps, opened := .value name (if first = "" then [] else [first]) }
  /-- A block begins. -/
  | openBlock {ps : _} {name} (settled : r.finish = .ok ps)
      (header : headerOf? line = some (name, ""))
      (named : name ≠ "") (declared : schema.params.get? name = some .block) :
      Step schema r line { params := ps, opened := .block name ∅ }

theorem openLine_cases (settled : r.finish = .ok ps) (h : openLine schema ps line = .ok r') :
    Step schema r line r' := by
  rw [openLine_eq] at h
  split at h
  · next header =>
    obtain rfl := Except.ok.inj h
    exact .skip settled header
  · next name value header =>
    split at h
    · cases h
    · next named =>
      split at h
      · cases h
      · next type declared =>
        unfold assign at h
        split at h
        · next start =>
          split at h
          · next inner rest cut =>
            obtain ⟨v, conv, h⟩ := bind_eq_ok.1 h
            obtain rfl := Except.ok.inj h
            exact .delimited settled header named declared start cut conv
          · next cut =>
            obtain rfl := Except.ok.inj h
            exact .openValue settled header named declared start cut rfl
        · next start =>
          rw [Bool.not_eq_true] at start
          split at h
          · next empty =>
            simp only [Bool.and_eq_true, decide_eq_true_eq, beq_iff_eq] at empty
            obtain ⟨rfl, rfl⟩ := empty
            obtain rfl := Except.ok.inj h
            exact .openBlock settled header named declared
          · obtain ⟨v, conv, h⟩ := bind_eq_ok.1 h
            obtain rfl := Except.ok.inj h
            exact .plain settled header named declared start conv

/-- One line does nothing but what is listed. -/
theorem step_cases (h : step schema r line = .ok r') : Step schema r line r' := by
  unfold step at h
  split at h
  · next name lines opened =>
    split at h
    · next head rest cut =>
      obtain ⟨v, conv, h⟩ := bind_eq_ok.1 h
      obtain rfl := Except.ok.inj h
      exact .close opened cut conv
    · next cut =>
      obtain rfl := Except.ok.inj h
      exact .more opened cut
  · next name entries opened =>
    split at h
    · next plain =>
      simp only [Bool.and_eq_true, Bool.not_eq_true'] at plain
      obtain rfl := Except.ok.inj h
      exact .entry opened plain.1 plain.2
    · exact openLine_cases (by rw [finish, opened]) h
  · next opened => exact openLine_cases (by rw [finish, opened]) h

end ParamReader

end ArchModel
