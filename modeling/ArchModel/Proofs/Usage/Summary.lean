import ArchModel.Proofs.Places
import ArchModel.Proofs.Text.Order
import ArchModel.Proofs.Usage.Steps
import Mathlib.Algebra.GroupWithZero.Nat
import Mathlib.Data.List.Sort
import Mathlib.Data.Prod.Lex

/-!
# Summaries of usage

A summary has one row for each source, target and kind that occurs, in order, and each row counts
the evidence of its own.

* `UsageRow.rank` is what rows are ordered by, `UsageRow.triple` what they count.
* `get?_rowCounts`: the counts are the numbers of pieces of evidence.
* `pairwise_summarizeUsage` and `mem_summarizeUsage_iff` pin a summary down;
  `summarizeUsage_perm` and `summarizeUsage_filter` follow from them.
* `flatMap_summarizeUsage_perm`: what the rows count, row by row, is the evidence.
* **`UsageIndex.contents_ofSteps`**: what an index that was built step by step holds, and what its
  summary says.
-/

namespace ArchModel

/-! ## Rows -/

theorem UsageKind.word_injective : Function.Injective UsageKind.word := by
  intro k l same
  cases k <;> cases l <;> first | rfl | exact absurd same (by decide)

namespace UsageRow

/-- What a row counts. -/
def triple (r : UsageRow) : String × String × UsageKind := (r.source, r.target, r.kind)

/-- What rows are ordered by: the source, then the target, then the word for the kind. -/
def rank (r : UsageRow) : List Nat ×ₗ List Nat ×ₗ List Nat :=
  toLex (Text.codes r.source, toLex (Text.codes r.target, Text.codes r.kind.word))

/-- The row of a count. -/
def ofCount (x : (String × String × UsageKind) × Nat) : UsageRow := ⟨x.1.1, x.1.2.1, x.1.2.2, x.2⟩

theorem rank_eq_iff {a b : UsageRow} : a.rank = b.rank ↔ a.triple = b.triple := by
  simp [rank, triple, Text.codes_injective.eq_iff, UsageKind.word_injective.eq_iff]

theorem le_iff {a b : UsageRow} : a.le b = true ↔ a.rank ≤ b.rank := by
  have ordered (s t : String) :
      Text.inOrder s t = true ↔ Text.codes s < Text.codes t ∨ s = t := by
    rw [Text.inOrder_iff, le_iff_lt_or_eq, Text.codes_injective.eq_iff]
  rw [le, rank, rank, Prod.Lex.toLex_le_toLex, Prod.Lex.toLex_le_toLex]
  dsimp only
  rw [Text.codes_injective.eq_iff, Text.codes_injective.eq_iff, ← Text.inOrder_iff]
  by_cases source : a.source = b.source
  · by_cases target : a.target = b.target
    · simp [source, target]
    · simp [source, target, ordered]
  · simp [source, ordered]

end UsageRow

/-! ## Counts -/

/-- The numbers of pieces of evidence. -/
def rowCounts (es : List Evidence) : Entries (String × String × UsageKind) Nat :=
  es.foldl (fun counts e => counts.insert e.row ((counts.get? e.row).getD 0 + 1)) ∅

theorem summarizeUsage_eq (es : List Evidence) :
    summarizeUsage es = ((rowCounts es).toList.map UsageRow.ofCount).mergeSort UsageRow.le := rfl

theorem rowCounts_concat (es : List Evidence) (e : Evidence) :
    rowCounts (es ++ [e]) =
      (rowCounts es).insert e.row (((rowCounts es).get? e.row).getD 0 + 1) := by
  rw [rowCounts, List.foldl_append]
  rfl

/-- What does not occur is not counted, and all else is counted as often as it occurs. -/
theorem get?_rowCounts (es : List Evidence) (k : String × String × UsageKind) :
    (rowCounts es).get? k =
      if (es.filter (·.row = k)).length = 0 then none
      else some (es.filter (·.row = k)).length := by
  induction es using List.reverseRecOn with
  | nil => rfl
  | append_singleton es e ih =>
    rw [rowCounts_concat, Entries.get?_insert, List.filter_append, List.length_append]
    by_cases same : e.row = k
    · have before : ((rowCounts es).get? k).getD 0 = (es.filter (·.row = k)).length := by
        rw [ih]
        split
        · next none => exact none.symm
        · rfl
      simp [same, before]
    · simp [same, ih]

theorem get?_rowCounts_eq_some_iff {es : List Evidence} {k : String × String × UsageKind}
    {n : Nat} : (rowCounts es).get? k = some n ↔
      n = (es.filter (·.row = k)).length ∧ n ≠ 0 := by
  rw [get?_rowCounts]
  split
  · next none => simp [none]
  · next some => exact ⟨fun h => ⟨(Option.some.inj h).symm, Option.some.inj h ▸ some⟩,
      fun h => congrArg _ h.1.symm⟩

/-! ## Summaries -/

section summary

variable {es : List Evidence}

/-- A summary has one row for each source, target and kind that occurs, with the number of pieces
of evidence. -/
theorem mem_summarizeUsage_iff {r : UsageRow} : r ∈ summarizeUsage es ↔
    r.count = (es.filter (·.row = r.triple)).length ∧ r.count ≠ 0 := by
  rw [summarizeUsage_eq, List.mem_mergeSort, List.mem_map, ← get?_rowCounts_eq_some_iff,
    Entries.get?_eq_some_iff]
  constructor
  · rintro ⟨x, hx, rfl⟩
    exact hx
  · intro h
    exact ⟨(r.triple, r.count), h, rfl⟩

theorem nodup_triple_summarizeUsage (es : List Evidence) :
    ((summarizeUsage es).map UsageRow.triple).Nodup := by
  have sorted : ((summarizeUsage es).map UsageRow.triple).Perm (rowCounts es).keys := by
    rw [summarizeUsage_eq]
    refine ((List.mergeSort_perm _ _).map _).trans ?_
    rw [List.map_map]
    exact .refl _
  exact sorted.nodup_iff.2 (rowCounts es).nodup_keys

/-- The rows of a summary are in order, and no two of them count the same. -/
theorem pairwise_summarizeUsage (es : List Evidence) :
    (summarizeUsage es).Pairwise (·.rank < ·.rank) := by
  have ordered : (summarizeUsage es).Pairwise fun a b => a.le b = true := by
    refine List.pairwise_mergeSort (fun a b c hab hbc => ?_) (fun a b => ?_) _
    · exact UsageRow.le_iff.2 ((UsageRow.le_iff.1 hab).trans (UsageRow.le_iff.1 hbc))
    · rw [Bool.or_eq_true, UsageRow.le_iff, UsageRow.le_iff]
      exact le_total _ _
  have distinct : (summarizeUsage es).Pairwise fun a b => a.triple ≠ b.triple :=
    List.pairwise_map.1 (nodup_triple_summarizeUsage es)
  refine distinct.imp₂ (fun a b apart le => ?_) ordered
  exact lt_of_le_of_ne (UsageRow.le_iff.1 le) (mt UsageRow.rank_eq_iff.1 apart)

/-- Rows in strict order are told by their members. -/
theorem eq_of_pairwise_rank {rows rows' : List UsageRow} (h : rows.Pairwise (·.rank < ·.rank))
    (h' : rows'.Pairwise (·.rank < ·.rank)) (same : ∀ r, r ∈ rows ↔ r ∈ rows') : rows = rows' := by
  have irrefl : Std.Irrefl fun a b : UsageRow => a.rank < b.rank := ⟨fun a => lt_irrefl a.rank⟩
  have antisymm : Std.Antisymm fun a b : UsageRow => a.rank < b.rank :=
    ⟨fun a b hab hba => absurd hab hba.asymm⟩
  exact h.eq_of_mem_iff h' same

/-- The order of evidence does not matter to its summary. -/
theorem summarizeUsage_perm {es es' : List Evidence} (h : es.Perm es') :
    summarizeUsage es = summarizeUsage es' := by
  refine eq_of_pairwise_rank (pairwise_summarizeUsage es) (pairwise_summarizeUsage es')
    fun r => ?_
  rw [mem_summarizeUsage_iff, mem_summarizeUsage_iff, (h.filter _).length_eq]

/-- Where the triple decides which evidence counts, it decides which rows there are. -/
theorem summarizeUsage_filter (test : String × String × UsageKind → Bool) (es : List Evidence) :
    summarizeUsage (es.filter fun e => test e.row) =
      (summarizeUsage es).filter fun r => test r.triple := by
  refine eq_of_pairwise_rank (pairwise_summarizeUsage _)
    ((pairwise_summarizeUsage es).filter _) fun r => ?_
  have counted : ((es.filter fun e => test e.row).filter (·.row = r.triple)) =
      if test r.triple then es.filter (·.row = r.triple) else [] := by
    rw [List.filter_filter]
    split
    · next passed => exact List.filter_congr fun e _ => by simp +contextual [passed]
    · next failed => simp +contextual [List.filter_eq_nil_iff, failed]
  rw [mem_summarizeUsage_iff, List.mem_filter, mem_summarizeUsage_iff, counted]
  by_cases passed : test r.triple = true
  · simp [passed]
  · simp [passed]

/-- What the rows of a summary count, row by row, is the evidence. -/
theorem flatMap_summarizeUsage_perm (es : List Evidence) :
    ((summarizeUsage es).flatMap fun r => es.filter (·.row = r.triple)).Perm es := by
  have all : ∀ e ∈ es, e.row ∈ (summarizeUsage es).map UsageRow.triple := by
    intro e he
    refine List.mem_map.2 ⟨.ofCount (e.row, (es.filter (·.row = e.row)).length), ?_, rfl⟩
    have occurs : e ∈ es.filter (·.row = e.row) := List.mem_filter.2 ⟨he, by simp⟩
    exact mem_summarizeUsage_iff.2 ⟨rfl, mt List.length_eq_zero_iff.1 (List.ne_nil_of_mem occurs)⟩
  have parted := flatMap_filter_perm_self Evidence.row (nodup_triple_summarizeUsage es) all
  rwa [List.flatMap_map] at parted

/-- The counts of a summary add up to the number of pieces of evidence. -/
theorem sum_summarizeUsage (es : List Evidence) :
    ((summarizeUsage es).map (·.count)).sum = es.length := by
  rw [← (flatMap_summarizeUsage_perm es).length_eq, List.length_flatMap]
  exact congrArg _ (List.map_congr_left fun r hr => (mem_summarizeUsage_iff.1 hr).1)

end summary

/-! ## Indexes -/

namespace UsageIndex

/-- The evidence of all pairs, pair by pair, is the evidence of the index. -/
theorem flatMap_between_perm (steps : List UsageStep) :
    ((ofSteps steps).pairs.flatMap fun p => (ofSteps steps).between p.1 p.2).Perm
      (ofSteps steps).evidence := by
  have all : ∀ e ∈ (ofSteps steps).evidence, e.pair ∈ (ofSteps steps).pairs := by
    intro e he
    rw [pairs_ofSteps, mem_dedupe]
    exact List.mem_map_of_mem he
  have parted := flatMap_filter_perm_self Evidence.pair (nodup_pairs steps) all
  have each := List.flatMap_congr fun p (_ : p ∈ (ofSteps steps).pairs) =>
    between_eq_filter_pair steps p
  exact each ▸ parted

/-- **What an index holds.** The evidence of an index is what was added, in order; the evidence of a
pair are the pieces with its source and target; the pairs are those that occur, each at the place of
its first piece, and their evidence, pair by pair, is all evidence. What a component reaches of
another one is what was added for the two, each piece at its first place, and nothing for a
component and itself. Adding what a component reaches changes neither the evidence nor what is told
of it, and adding evidence nothing of what is reached. The rows of the summary stand in strict
order, there is one for each source, target and kind that occurs, with the number of its pieces, and
the numbers add up to that of all evidence. -/
theorem contents_ofSteps (steps : List UsageStep) :
    let u := ofSteps steps
    let added := steps.filterMap (·.evidence?)
    u.evidence = added ∧
    (∀ source target,
      u.between source target = added.filter fun e => e.source = source ∧ e.target = target) ∧
    u.pairs = anew id [] (added.map fun e => (e.source, e.target)) ∧
    (u.pairs.flatMap fun p => u.between p.1 p.2).Perm added ∧
    (∀ origin target, u.reached origin target =
      anew id [] (steps.filterMap (·.reach? origin target))) ∧
    (∀ origin, u.reached origin origin = []) ∧
    (∀ (v : UsageIndex) (origin : String) (e : Evidence),
      (v.addReach origin e).evidence = v.evidence ∧
      (∀ source target, (v.addReach origin e).between source target = v.between source target) ∧
      (v.addReach origin e).pairs = v.pairs ∧
      (v.addReach origin e).summarize = v.summarize) ∧
    (∀ (v : UsageIndex) (e : Evidence) (origin target : String),
      (v.add e).reached origin target = v.reached origin target) ∧
    u.summarize.Pairwise (·.rank < ·.rank) ∧
    (∀ r, r ∈ u.summarize ↔
      r.count = (added.filter (·.row = r.triple)).length ∧ r.count ≠ 0) ∧
    (u.summarize.map (·.count)).sum = added.length := by
  intro u added
  have evidence : u.evidence = added := evidence_ofSteps steps
  have summary : u.summarize = summarizeUsage added := congrArg summarizeUsage evidence
  have self (origin : String) : steps.filterMap (·.reach? origin origin) = [] := by
    refine List.filterMap_eq_nil_iff.2 fun s _ => ?_
    cases s <;> simp [UsageStep.reach?]
  have aside (v : UsageIndex) (origin : String) (e : Evidence) :
      (v.addReach origin e).summarize = v.summarize :=
    congrArg summarizeUsage (v.evidence_addReach origin e)
  rw [summary]
  refine ⟨evidence, fun source target => ?_, ?_, ?_, fun origin target => ?_, fun origin => ?_,
    fun v origin e => ⟨v.evidence_addReach origin e, fun source target => ?_,
      v.pairs_addReach origin e, aside v origin e⟩,
    fun v e origin target => v.reached_add origin target e, pairwise_summarizeUsage added,
    fun r => mem_summarizeUsage_iff, sum_summarizeUsage added⟩
  · rw [← evidence]
    exact between_ofSteps steps source target
  · rw [pairs_ofSteps, dedupe_eq_anew, ← evidence]
    rfl
  · exact evidence ▸ flatMap_between_perm steps
  · rw [reached_ofSteps, dedupe_eq_anew]
  · rw [reached_ofSteps, self]
    rfl
  · exact v.between_addReach source target origin e

end UsageIndex

end ArchModel
