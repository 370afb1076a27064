import ArchModel.Extraction.Relation
import ArchModel.Log.Record

/-!
# The components of a program

Every class of a program is looked at once, and a bad declaration does not keep the others from
being read.

* `ClassOutcome` is what becomes of a class.
* `Program.outcomes` are the outcomes of all classes, in the order of modules and classes.
* `Extraction.components`, `Extraction.diagnostics` and `Extraction.records` are what the outcomes
  give.
-/

namespace ArchModel

/-- What becomes of a class. -/
inductive ClassOutcome
  /-- It declares no component. -/
  | plain
  /-- Its declaration is unusable. -/
  | refused (c : ClassInfo) (e : DeclarationError)
  /-- Its component has the name of an earlier one, which stands at `first`. -/
  | repeated (component : Component) (first : Location)
  /-- It gives a component; `errors` tells of the relation tags that cannot be read. -/
  | accepted (component : Component) (errors : List DeclarationError)
  deriving Inhabited

namespace ClassOutcome

/-- The component that an outcome gives. -/
def component? : ClassOutcome → Option Component
  | accepted c _ => some c
  | _ => none

/-- Why a component of a name that is taken is passed over. -/
def repeatedMessage (name : String) (first : Location) : String :=
  "Duplicate component name \"" ++ name ++ "\" (first declared at " ++ first.text ++ ")"

/-- The place of a refused declaration. -/
def refusedLocation (c : ClassInfo) (e : DeclarationError) : Location :=
  e.location.getD (c.location c.decl.line)

/-- The diagnostics that an outcome gives. -/
def diagnostics : ClassOutcome → List Diagnostic
  | plain => []
  | refused c e => [⟨refusedLocation c e, e.fault.message, e.fault.kind⟩]
  | repeated component first =>
    [⟨component.location, repeatedMessage component.name first, "DuplicateComponentError"⟩]
  | accepted _ errors => errors.map (·.relationDiagnostic)

/-- What the log says of an outcome. -/
def records : ClassOutcome → List LogRecord
  | plain => []
  | refused c e => [⟨"extractors", .warning, "Skipping " ++ c.id.qualname ++ " at " ++
      (refusedLocation c e).text ++ ": " ++ e.fault.message⟩]
  | repeated component first => [⟨"extractors", .warning, "Skipping " ++ component.location.text ++
      ": " ++ repeatedMessage component.name first⟩]
  | accepted _ errors => errors.map fun e =>
    ⟨"extractors.relations", .warning, e.relationDiagnostic.text⟩

end ClassOutcome

/-- What becomes of a class when some components were accepted before. -/
def ClassInfo.outcome (c : ClassInfo) (rules : GroupRules) (earlier : List Component) :
    ClassOutcome :=
  match c.component rules with
  | .error e => .refused c e
  | .ok none => .plain
  | .ok (some component) =>
    match earlier.find? (·.name = component.name) with
    | some first => .repeated component first.location
    | none =>
      let relations := c.relations component.name
      .accepted { component with relations := RelationTag.relations relations } (RelationTag.errors relations)

/-- The components of a program and what was passed over. -/
structure Extraction where
  /-- The diagnostics of the program. -/
  inherited : List Diagnostic
  /-- What became of the classes, in order. -/
  outcomes : List ClassOutcome
  deriving Inhabited

namespace Extraction

/-- The accepted components. -/
def components (x : Extraction) : List Component := x.outcomes.filterMap (·.component?)

/-- The diagnostics of the program and of the classes. -/
def diagnostics (x : Extraction) : List Diagnostic :=
  x.inherited ++ x.outcomes.flatMap (·.diagnostics)

/-- What the log says of an extraction. -/
def records (x : Extraction) : List LogRecord :=
  x.outcomes.flatMap (·.records) ++
    [⟨"extractors", .info, "Extracted " ++ toString x.components.length ++ " components with " ++
      toString (Component.allRelations x.components).length ++ " declared relations (" ++
      toString x.diagnostics.length ++ " diagnostics)"⟩]

end Extraction

namespace Program

/-- The classes of a program in the order of modules and classes. -/
def allClasses (p : Program) : List ClassInfo := p.modules.values.flatMap (·.classes.values)

/-- What becomes of classes, with the components that were accepted before. -/
def outcomesFrom (rules : GroupRules) (earlier : List Component) :
    List ClassInfo → List ClassOutcome
  | [] => []
  | c :: cs =>
    let o := c.outcome rules earlier
    o :: outcomesFrom rules (earlier ++ o.component?.toList) cs

/-- The components of a program under the rules for groups. -/
def extract (p : Program) (rules : GroupRules) : Extraction where
  inherited := p.diagnostics
  outcomes := outcomesFrom rules [] p.allClasses

/-- What the log says of the loading of a program. -/
def records (p : Program) : List LogRecord :=
  (p.diagnostics.map fun d =>
    ⟨"program", .warning, "Skipping " ++ d.location.file ++ ": " ++ d.message⟩) ++
  [⟨"program", .info, "Indexed " ++ toString p.modules.size ++ " modules and " ++
    toString p.classes.size ++ " classes"⟩]

end Program

end ArchModel
