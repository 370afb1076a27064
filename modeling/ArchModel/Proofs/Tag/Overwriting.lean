import ArchModel.Proofs.Tag.Reader

/-!
# Reading on after accepted lines

A reader carries the parameter that is open and those that are complete. It never looks at the
complete ones, and a line with a dash ends whatever accepted lines have left open. So what was read
before changes nothing in how the lines below are read.

* `ParamReader.behind` puts parameters before those of a reader. One line is read alike with and
  without them (`step_behind`), and so are many (`foldlM_behind`).
* `Schema.parseParams_append`: lines below accepted ones are read as they are by themselves, and
  their parameters overwrite those above.
-/

namespace ArchModel

open Text

variable {schema : Schema}

namespace ParamReader

/-- The reader with parameters before its own. -/
def behind (ps : Entries String ParamValue) (r : ParamReader) : ParamReader :=
  { r with params := ps.overwrite r.params }

theorem finish_behind (ps : Entries String ParamValue) (r : ParamReader) :
    (r.behind ps).finish = r.finish.map ps.overwrite := by
  unfold finish behind
  cases r.opened with
  | none => rfl
  | value name lines => rfl
  | block name entries =>
    exact congrArg Except.ok (ps.overwrite_insert r.params name (.block entries)).symm

theorem insert_behind (ps qs : Entries String ParamValue) (name : String)
    (value : Except SchemaError ParamValue) :
    (do let v ← value; return { params := (ps.overwrite qs).insert name v } :
        Except SchemaError ParamReader) =
      Except.map (behind ps) (do let v ← value; return { params := qs.insert name v }) := by
  cases value with
  | error e => rfl
  | ok v =>
    simp [bind, Except.bind, pure, Except.pure, Except.map, behind, Entries.overwrite_insert]

theorem assign_behind (ps qs : Entries String ParamValue) (name : String) (type : ValueType)
    (value : String) :
    assign (ps.overwrite qs) name type value = (assign qs name type value).map (behind ps) := by
  unfold assign
  split
  · split
    · exact insert_behind ps qs name _
    · rfl
  · split
    · rfl
    · exact insert_behind ps qs name _

theorem openLine_behind (ps qs : Entries String ParamValue) (line : String) :
    openLine schema (ps.overwrite qs) line = (openLine schema qs line).map (behind ps) := by
  rw [openLine_eq, openLine_eq]
  cases headerOf? line with
  | none => rfl
  | some header =>
    dsimp only
    split
    · rfl
    · split
      · rfl
      · exact assign_behind ps qs _ _ _

/-- A line is read alike whatever parameters stand before those of the reader. -/
theorem step_behind (ps : Entries String ParamValue) (r : ParamReader) (line : String) :
    step schema (r.behind ps) line = (step schema r line).map (behind ps) := by
  obtain ⟨qs, opened⟩ := r
  cases opened with
  | none =>
    simp only [step, behind]
    exact openLine_behind ps qs line
  | value name lines =>
    simp only [step, behind]
    split
    · exact insert_behind ps qs name _
    · rfl
  | block name entries =>
    simp only [step, behind]
    split
    · rfl
    · -- The block that ends here is one more of the reader's own parameters.
      rw [← Entries.overwrite_insert]
      exact openLine_behind ps _ line

theorem foldlM_behind (ps : Entries String ParamValue) (r : ParamReader) (lines : List String) :
    lines.foldlM (step schema) (r.behind ps) =
      (lines.foldlM (step schema) r).map (behind ps) := by
  induction lines generalizing r with
  | nil => rfl
  | cons line lines ih =>
    rw [List.foldlM_cons, List.foldlM_cons, step_behind]
    cases step schema r line with
    | error e => rfl
    | ok r₁ => exact ih r₁

end ParamReader

/-- Lines below accepted ones are read as they are by themselves, if the first of them has a dash:
they are accepted or not, with the same error, and their parameters overwrite those above. -/
theorem Schema.parseParams_append {above below : List String} {ps : Entries String ParamValue}
    (accepted : schema.parseParams above = .ok ps)
    (dash : ∀ l ∈ below.head?, startsWith "-" l = true) :
    schema.parseParams (above ++ below) = (schema.parseParams below).map ps.overwrite := by
  obtain ⟨r, run, settled⟩ := bind_eq_ok.1 accepted
  -- What the lines above have left open ends at the dash, or at the end of the lines.
  have anew : below.foldlM (ParamReader.step schema) r >>= ParamReader.finish =
      below.foldlM (ParamReader.step schema) (ParamReader.behind ps {}) >>=
        ParamReader.finish := by
    cases below with
    | nil => exact settled
    | cons l below =>
      have start : ParamReader.finish (ParamReader.behind ps {}) = .ok ps := rfl
      rw [List.foldlM_cons, List.foldlM_cons, ParamReader.step_of_dash settled (dash l rfl),
        ParamReader.step_of_dash start (dash l rfl)]
  calc schema.parseParams (above ++ below)
      = below.foldlM (ParamReader.step schema) r >>= ParamReader.finish := by
        rw [parseParams, List.foldlM_append, run]
        rfl
    _ = (below.foldlM (ParamReader.step schema) {}).map (ParamReader.behind ps) >>=
          ParamReader.finish := by
        rw [anew, ParamReader.foldlM_behind]
    _ = (schema.parseParams below).map ps.overwrite := by
        rw [parseParams]
        cases below.foldlM (ParamReader.step schema) {} with
        | error e => rfl
        | ok r => exact ParamReader.finish_behind ps r

end ArchModel
