import ArchModel.Log.Record
import ArchModel.Model.Component

/-!
# Rules for models

Rules look at components and their declared relations alone. All breaches are collected.

* `RuleBreach` is a breach of a rule, `RuleBreach.violation` its form in reports.
* `checkModel` runs all rules, `dropDuplicates` removes the relations that repeat earlier ones.
* `ModelError` is a model that is refused because of what was found.
-/

namespace ArchModel

open Text

/-- A breach of a rule as it is reported. -/
structure Violation where
  /-- The name of the rule. -/
  rule : String
  /-- The component that breaks it. -/
  subject : String
  detail : String
  location : Option Location := none
  deriving DecidableEq, Repr, Inhabited

namespace Violation

/-- The short form. -/
def text (v : Violation) : String :=
  "[" ++ v.rule ++ "] " ++ v.detail ++ match v.location with
    | some l => " (" ++ l.text ++ ")"
    | none => ""

/-- The form in reports. -/
def report (v : Violation) : Json := .object
  [("rule", .text v.rule), ("subject", .text v.subject), ("detail", .text v.detail),
    ("location", .ofOption Location.report v.location)]

end Violation

/-- A field that a relation needs. -/
inductive RequiredField
  | target
  | description
  deriving DecidableEq, Repr

namespace RequiredField

/-- The word for a field. -/
def word : RequiredField → String
  | target => "target"
  | description => "description"

/-- The value of a field. -/
def value (r : Relation) : RequiredField → String
  | target => r.target
  | description => r.description

/-- All fields, in the order in which they are checked. -/
def all : List RequiredField := [target, description]

end RequiredField

/-- The rules. -/
inductive Rule
  | duplicateComponent
  | missingField
  | duplicateRelation
  | selfRelation
  | tagConflict
  deriving DecidableEq, Repr

namespace Rule

/-- The name of a rule. -/
def word : Rule → String
  | duplicateComponent => "duplicate-component"
  | missingField => "missing-field"
  | duplicateRelation => "duplicate-relation"
  | selfRelation => "cyclic-relation"
  | tagConflict => "tag-conflict"

/-- All rules, in the order in which they are run. -/
def all : List Rule :=
  [duplicateComponent, missingField, duplicateRelation, selfRelation, tagConflict]

/-- The rules for relations, in the order in which they are run. -/
def forRelations : List Rule := [missingField, duplicateRelation, selfRelation, tagConflict]

end Rule

/-- A breach of a rule. -/
inductive RuleBreach
  /-- A component has the name of an earlier one, which stands at `first`. -/
  | duplicateComponent (c : Component) (first : Location)
  | missingField (r : Relation) (field : RequiredField)
  /-- A relation repeats an earlier one, which stands at `first`. -/
  | duplicateRelation (r : Relation) (first : Location)
  | selfRelation (r : Relation)
  | tagConflict (r : Relation)
  deriving DecidableEq, Repr

namespace RuleBreach

/-- The rule that is broken. -/
def rule : RuleBreach → Rule
  | duplicateComponent .. => .duplicateComponent
  | missingField .. => .missingField
  | duplicateRelation .. => .duplicateRelation
  | selfRelation _ => .selfRelation
  | tagConflict _ => .tagConflict

/-- The component that breaks the rule. -/
def subject : RuleBreach → String
  | duplicateComponent c _ => c.name
  | missingField r _ | duplicateRelation r _ | selfRelation r | tagConflict r => r.source

/-- The wording of a breach. -/
def detail : RuleBreach → String
  | duplicateComponent c first => "Duplicate component name \"" ++ c.name ++
      "\" (first declared at " ++ first.text ++ ")"
  | missingField r field => "Relation declared on \"" ++ r.source ++ "\" has no " ++ field.word
  | duplicateRelation r first => "Duplicate relation from \"" ++ r.source ++ "\" to \"" ++
      r.target ++ "\" with description \"" ++ r.description ++ "\" (first declared at " ++
      first.text ++ ")"
  | selfRelation r => "Component \"" ++ r.source ++ "\" declares a relation to itself"
  | tagConflict r => "Relationship from \"" ++ r.source ++ "\" to \"" ++ r.target ++
      "\" cannot be both direct and indirect"

/-- The place of a breach. -/
def location : RuleBreach → Location
  | duplicateComponent c _ => c.location
  | missingField r _ | duplicateRelation r _ | selfRelation r | tagConflict r => r.location

/-- The form in which a breach is reported. -/
def violation (b : RuleBreach) : Violation := ⟨b.rule.word, b.subject, b.detail, b.location⟩

end RuleBreach

/-! ## Repetitions -/

/-- The members of a list that have the key of an earlier one, each with the first of that key;
`seen` are the members before. -/
def repetitions {α κ : Type} [DecidableEq κ] (key : α → κ) (seen : List α) :
    List α → List (α × α)
  | [] => []
  | a :: as =>
    match seen.find? (key · = key a) with
    | some first => (a, first) :: repetitions key seen as
    | none => repetitions key (seen ++ [a]) as

/-- The components with the relations removed that repeat an earlier one; `seen` are the keys of the
relations before. -/
def dropRepeated (seen : List (String × String × String)) : List Component → List Component
  | [] => []
  | c :: cs =>
    let (kept, seen) := c.relations.foldl (fun (kept, seen) r =>
      if r.key ∈ seen then (kept, seen) else (kept ++ [r], seen ++ [r.key])) ([], seen)
    { c with relations := kept } :: dropRepeated seen cs

/-! ## Checks -/

/-- The breaches of a rule. -/
def Rule.check (components : List Component) : Rule → List RuleBreach
  | duplicateComponent =>
    (repetitions Component.name [] components).map fun (c, first) =>
      .duplicateComponent c first.location
  | missingField => (Component.allRelations components).flatMap fun r =>
    (RequiredField.all.filter fun f => strip (f.value r) = "").map (.missingField r)
  | duplicateRelation =>
    (repetitions Relation.key [] (Component.allRelations components)).map fun (r, first) =>
      .duplicateRelation r first.location
  | selfRelation => ((Component.allRelations components).filter fun r => r.target = r.source).map
      .selfRelation
  | tagConflict => ((Component.allRelations components).filter fun r =>
      r.tags.contains directTag && r.tags.contains indirectTag).map .tagConflict

/-- The breaches of some rules, rule by rule. -/
def checkRules (rules : List Rule) (components : List Component) : List RuleBreach :=
  rules.flatMap (Rule.check components)

/-- The breaches of all rules. -/
def checkModel (components : List Component) : List RuleBreach := checkRules Rule.all components

/-- What the log says of the rules that are broken. -/
def ruleRecords (components : List Component) : List LogRecord :=
  Rule.all.filterMap fun r =>
    match (r.check components).length with
    | 0 => none
    | n => some ⟨"validators.rules", .warning,
        "Rule " ++ r.word ++ " reported " ++ toString n ++ " violation(s)"⟩

/-- The components without the relations that repeat earlier ones, and a breach for each of
these. -/
def dropDuplicates (components : List Component) : List Component × List RuleBreach :=
  (dropRepeated [] components, Rule.duplicateRelation.check components)

/-! ## Refusal -/

/-- A model that is refused because of what was found. -/
structure ModelError where
  message : String
  violations : List Violation := []
  diagnostics : List Diagnostic := []
  deriving DecidableEq, Repr, Inhabited

namespace ModelError

/-- The message with what was found, one line each. -/
def text (e : ModelError) : String :=
  join "\n" (e.message :: (e.diagnostics.map fun d => "  - " ++ d.text) ++
    e.violations.map fun v => "  - " ++ v.text)

/-- The error for violations, if there are any. -/
def ofViolations (vs : List Violation) : Except ModelError Unit :=
  if vs.isEmpty then .ok ()
  else .error
    { message := "Model validation failed with " ++ toString vs.length ++ " violation(s)"
      violations := vs }

end ModelError

end ArchModel
