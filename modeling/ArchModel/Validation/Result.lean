import ArchModel.Usage.Index

/-!
# Results of checking relations

* `Classification` is the verdict on a relation, direct or indirect, with the evidence for it.
* `RelationFault` is what can be wrong with a relation.
* `RelationResult` is the outcome for one relation; `RelationResult.tagged` is the relation with the
  tag that the verdict suggests.
-/

namespace ArchModel

/-- Whether a component holds another one itself. -/
inductive RelationKind
  | direct
  | indirect
  deriving DecidableEq, Repr, Inhabited

namespace RelationKind

/-- The word for a kind. -/
def word : RelationKind → String
  | direct => "direct"
  | indirect => "indirect"

/-- The tag for a kind. -/
def tag : RelationKind → String
  | direct => directTag
  | indirect => indirectTag

/-- The other kind. -/
def opposite : RelationKind → RelationKind
  | direct => indirect
  | indirect => direct

end RelationKind

/-- The verdict on a relation and the evidence that decides it. -/
structure Classification where
  kind : RelationKind
  evidence : Evidence
  deriving DecidableEq, Repr, Inhabited

namespace Classification

/-- The form in reports. -/
def report (c : Classification) : Json := .object
  [("kind", .text c.kind.word), ("tag", .text c.kind.tag), ("evidence", c.evidence.report)]

end Classification

/-- The verdict on evidence: direct if any of it is. -/
def classify (es : List Evidence) : Option Classification :=
  match es.find? (·.isDirect), es.head? with
  | some e, _ => some ⟨.direct, e⟩
  | none, some e => some ⟨.indirect, e⟩
  | none, none => none

/-- What can be wrong with a relation. -/
inductive RelationFault
  /-- It carries the tags of both kinds. -/
  | bothKinds
  | missingSource
  | missingTarget
  /-- It is declared, but nothing in the sources shows it. -/
  | unused
  /-- It carries the tag of the kind that it is not of. -/
  | wrongKind (found : RelationKind) (place : Location)
  /-- It is not declared. -/
  | undeclared (place : Location)
  deriving DecidableEq, Repr

namespace RelationFault

/-- The wording of a fault of a relation. -/
def message (source target : String) : RelationFault → String
  | bothKinds => between ++ " cannot be both direct and indirect"
  | missingSource => "Source component \"" ++ source ++ "\" does not exist"
  | missingTarget => between ++ ": target does not exist"
  | unused => between ++ " is documented but not found in code"
  | wrongKind .direct place =>
    between ++ " is marked as indirect but has direct usage at " ++ place.text
  | wrongKind .indirect place =>
    between ++ " is marked as direct but only has indirect usage at " ++ place.text
  | undeclared place => "Undeclared relationship from \"" ++ source ++ "\" to \"" ++ target ++
      "\" found at " ++ place.text
where
  /-- The relation itself. -/
  between : String := "Relationship from \"" ++ source ++ "\" to \"" ++ target ++ "\""

end RelationFault

/-- The outcome for one relation. -/
structure RelationResult where
  relation : Relation
  targetExists : Bool
  isUsed : Bool
  /-- The place of the evidence. -/
  usageLocation : Option Location := none
  faults : List RelationFault := []
  classification : Option Classification := none
  /-- The tags that the relation should carry besides its own. -/
  inferredTags : List String := []
  /-- Whether the relation was found and not declared. -/
  undeclared : Bool := false
  deriving DecidableEq, Repr, Inhabited

namespace RelationResult

/-- Whether anything is wrong. -/
def hasProblems (r : RelationResult) : Bool := !r.targetExists || !r.isUsed || !r.faults.isEmpty

/-- The wordings of the faults. -/
def errors (r : RelationResult) : List String :=
  r.faults.map (RelationFault.message r.relation.source r.relation.target)

/-- The form in reports. -/
def report (r : RelationResult) : Json := .object
  [("relation", r.relation.report), ("targetExists", .bool r.targetExists),
    ("isUsed", .bool r.isUsed), ("usageLocation", .ofOption Location.report r.usageLocation),
    ("errors", .ofTexts r.errors),
    ("classification", .ofOption Classification.report r.classification),
    ("inferredTags", .ofTexts r.inferredTags), ("undeclared", .bool r.undeclared)]

/-- The inferred tags that the relation does not carry. -/
def newTags (r : RelationResult) : List String :=
  r.inferredTags.filter fun tag => !r.relation.tags.contains tag

/-- The relation with the inferred tags. -/
def tagged (r : RelationResult) : Relation :=
  { r.relation with tags := r.relation.tags ++ r.newTags }

end RelationResult

end ArchModel
