import ArchModel.Usage.Evidence

/-!
# Observed usage

A usage index holds the evidence of one program, and apart from it what components reach through
the methods of others.

* `UsageIndex.add` adds evidence; `between` is the evidence of a pair of components, `pairs` are
  the pairs that have any.
* `UsageIndex.addReach` adds what a component reaches; `reached` is what it reaches of another one.
* `summarize` counts evidence by pair and kind.
-/

namespace ArchModel

/-- Observed usage. -/
structure UsageIndex where
  /-- The evidence in the order in which it was found. -/
  evidence : List Evidence := []
  /-- The evidence by source and target. -/
  byPair : Entries (String × String) (List Evidence) := ∅
  /-- The evidence that components reach, by the origin and the target. -/
  byReach : Entries (String × String) (List Evidence) := ∅
  deriving Inhabited

namespace UsageIndex

/-- Add evidence. -/
def add (u : UsageIndex) (e : Evidence) : UsageIndex :=
  let pair := (e.source, e.target)
  { u with
    evidence := u.evidence ++ [e]
    byPair := u.byPair.insert pair ((u.byPair.get? pair).getD [] ++ [e]) }

/-- Add evidence that a component reaches through the methods of others. What leads back to the
component and what is known are left out. -/
def addReach (u : UsageIndex) (origin : String) (e : Evidence) : UsageIndex :=
  if origin = e.target then u
  else
    let pair := (origin, e.target)
    let known := (u.byReach.get? pair).getD []
    { u with byReach := u.byReach.insert pair (if e ∈ known then known else known ++ [e]) }

/-- The evidence of a pair. -/
def between (u : UsageIndex) (source target : String) : List Evidence :=
  (u.byPair.get? (source, target)).getD []

/-- The evidence that a component reaches of another one. -/
def reached (u : UsageIndex) (origin target : String) : List Evidence :=
  (u.byReach.get? (origin, target)).getD []

/-- The pairs that have evidence, in the order of the first piece. -/
def pairs (u : UsageIndex) : List (String × String) := u.byPair.keys

end UsageIndex

/-- The number of pieces of evidence of one kind between two components. -/
structure UsageRow where
  source : String
  target : String
  kind : UsageKind
  count : Nat
  deriving DecidableEq, Repr, Inhabited

namespace UsageRow

/-- The form in reports. -/
def report (r : UsageRow) : Json := .object
  [("from", .text r.source), ("to", .text r.target), ("type", .text r.kind.word),
    ("count", .ofNat r.count)]

/-- The order of rows: by source, target and the word for the kind. -/
def le (a b : UsageRow) : Bool :=
  if a.source ≠ b.source then Text.inOrder a.source b.source
  else if a.target ≠ b.target then Text.inOrder a.target b.target
  else Text.inOrder a.kind.word b.kind.word

end UsageRow

/-- What evidence is counted by. -/
def Evidence.row (e : Evidence) : String × String × UsageKind := (e.source, e.target, e.kind)

/-- The counts of evidence, in the order of rows. -/
def summarizeUsage (es : List Evidence) : List UsageRow :=
  let counts : Entries (String × String × UsageKind) Nat :=
    es.foldl (fun counts e => counts.insert e.row ((counts.get? e.row).getD 0 + 1)) ∅
  (counts.toList.map fun ((source, target, kind), count) => ⟨source, target, kind, count⟩)
    |>.mergeSort UsageRow.le

/-- The counts of all evidence. -/
def UsageIndex.summarize (u : UsageIndex) : List UsageRow := summarizeUsage u.evidence

end ArchModel
