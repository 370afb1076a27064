import ArchModel.Proofs.Extraction.Declared
import ArchModel.Proofs.Validation.Repetition
import ArchModel.Validation.Result

/-!
# Fates of relation tags

A relation tag of an extracted component is malformed, repeats an earlier relation or is checked.
Nothing else happens to it.

* `RelationFate` is what becomes of a relation tag, and `OwnedTag.Ends` says when.
* `fatesFrom` goes through tags in order. Its fates are told one by one (`fatesFrom_tells`), and
  each tag ends in its own (`ends_of_mem_fatesFrom`).
-/

namespace ArchModel

/-! ## Fates -/

/-- What becomes of a relation tag. -/
inductive RelationFate
  /-- It is passed over with a diagnostic. -/
  | unreadable (d : Diagnostic)
  /-- Its relation is dropped as a repetition. -/
  | repeated (v : Violation)
  /-- Its relation is checked. -/
  | checked (r : RelationResult)

namespace RelationFate

def diagnostic? : RelationFate → Option Diagnostic
  | unreadable d => some d
  | _ => none

def violation? : RelationFate → Option Violation
  | repeated v => some v
  | _ => none

def result? : RelationFate → Option RelationResult
  | checked r => some r
  | _ => none

end RelationFate

/-- What may become of a relation tag, `kept` being the relations that repeat no earlier one. -/
inductive OwnedTag.Ends (kept : List Relation) (t : OwnedTag) : RelationFate → Prop
  /-- It cannot be read. -/
  | unreadable {e : SchemaError} (malformed : Schema.relation.parse t.tag.content = .error e) :
      Ends kept t (.unreadable
        { location := t.tag.location
          message := (DeclarationFault.relation t.owner e).message
          error := "SchemaError" })
  /-- Its relation repeats an earlier one. -/
  | repeated {r first : Relation} (read : t.read = .ok r) (mem : first ∈ kept)
      (same : first.key = r.key) :
      Ends kept t (.repeated (RuleBreach.duplicateRelation r first.location).violation)
  /-- Its relation is kept, and it is the one that the result is about, up to the tags that the
  result adds. -/
  | checked {r : Relation} {result : RelationResult} (read : t.read = .ok r) (mem : r ∈ kept)
      {added : List String} (relation : result.relation = { r with tags := r.tags ++ added })
      (declared : result.undeclared = false) :
      Ends kept t (.checked result)

theorem OwnedTag.read_eq_error {t : OwnedTag} {e : DeclarationError} (h : t.read = .error e) :
    ∃ fault, Schema.relation.parse t.tag.content = .error fault ∧
      e = ⟨.relation t.owner fault, some t.tag.location⟩ := by
  unfold OwnedTag.read RelationTag.read at h
  split at h
  · next fault malformed => exact ⟨fault, malformed, (Except.error.inj h).symm⟩
  · cases h

/-- What becomes of tags that are read by `read`, `seen` being the relations before. -/
def fatesFrom (read : OwnedTag → Except DeclarationError Relation)
    (check : Relation → RelationResult) (seen : List Relation) :
    List OwnedTag → List (OwnedTag × RelationFate)
  | [] => []
  | t :: ts =>
    match read t with
    | .error e => (t, .unreadable e.relationDiagnostic) :: fatesFrom read check seen ts
    | .ok r =>
      match seen.find? (Relation.key · = r.key) with
      | some first => (t, .repeated (RuleBreach.duplicateRelation r first.location).violation) ::
          fatesFrom read check seen ts
      | none => (t, .checked (check r)) :: fatesFrom read check (seen ++ [r]) ts

section fates

variable {read : OwnedTag → Except DeclarationError Relation} {check : Relation → RelationResult}
  {seen : List Relation}

theorem map_fst_fatesFrom (ts : List OwnedTag) : (fatesFrom read check seen ts).map (·.1) = ts := by
  fun_induction fatesFrom read check seen ts <;> simp_all

/-- What the fates tell: a diagnostic for each tag that cannot be read, a violation for each
relation that repeats an earlier one, and a result for each other relation. -/
theorem fatesFrom_tells (read : OwnedTag → Except DeclarationError Relation)
    (check : Relation → RelationResult) (seen : List Relation) (ts : List OwnedTag) :
    let fates := (fatesFrom read check seen ts).map (·.2)
    fates.filterMap (·.diagnostic?) =
        (RelationTag.errors (ts.map read)).map DeclarationError.relationDiagnostic ∧
      fates.filterMap (·.violation?) =
        (repetitions Relation.key seen (RelationTag.relations (ts.map read))).map (fun (r, first) =>
          (RuleBreach.duplicateRelation r first.location).violation) ∧
      fates.filterMap (·.result?) =
        (firsts Relation.key seen (RelationTag.relations (ts.map read))).map check := by
  fun_induction fatesFrom read check seen ts with
  | case1 seen => exact ⟨rfl, rfl, rfl⟩
  | case2 seen t ts e he ih =>
    simpa [he, RelationFate.diagnostic?, RelationFate.violation?, RelationFate.result?] using ih
  | case3 seen t ts r hr first found ih =>
    simpa [hr, RelationFate.diagnostic?, RelationFate.violation?, RelationFate.result?,
      repetitions, firsts, found] using ih
  | case4 seen t ts r hr none ih =>
    simpa [hr, RelationFate.diagnostic?, RelationFate.violation?, RelationFate.result?,
      repetitions, firsts, none] using ih

/-- Each tag ends in its fate, if checking a relation tells of this relation. -/
theorem ends_of_mem_fatesFrom {kept : List Relation} {ts : List OwnedTag}
    (hread : ∀ t, read t = t.read)
    (hcheck : ∀ r, ∃ added, (check r).relation = { r with tags := r.tags ++ added })
    (hdeclared : ∀ r, (check r).undeclared = false)
    (hkept : ∀ r ∈ seen ++
      firsts Relation.key seen (RelationTag.relations (ts.map read)), r ∈ kept) :
    ∀ f ∈ fatesFrom read check seen ts, f.1.Ends kept f.2 := by
  fun_induction fatesFrom read check seen ts with
  | case1 seen => simp
  | case2 seen t ts e he ih =>
    rw [List.map_cons, he, RelationTag.relations_cons_error] at hkept
    obtain ⟨fault, malformed, rfl⟩ := OwnedTag.read_eq_error ((hread t).symm.trans he)
    exact List.forall_mem_cons.2 ⟨.unreadable malformed, ih hkept⟩
  | case3 seen t ts r hr first found ih =>
    simp only [List.map_cons, hr, RelationTag.relations_cons_ok, firsts, found] at hkept
    have mem : first ∈ kept :=
      hkept first (List.mem_append_left _ (List.mem_of_find?_eq_some found))
    have same : first.key = r.key := by simpa using List.find?_some found
    exact List.forall_mem_cons.2 ⟨.repeated ((hread t).symm.trans hr) mem same, ih hkept⟩
  | case4 seen t ts r hr none ih =>
    simp only [List.map_cons, hr, RelationTag.relations_cons_ok, firsts, none] at hkept
    obtain ⟨added, relation⟩ := hcheck r
    refine List.forall_mem_cons.2
      ⟨.checked ((hread t).symm.trans hr) (hkept r (by simp)) relation (hdeclared r), ih ?_⟩
    simpa using hkept

end fates

end ArchModel
