import ArchModel.Log.Record
import ArchModel.Usage.Quotation
import ArchModel.Usage.Traversal

/-!
# Usage between components

A finder looks for the usage of components by each other in a program: what the signatures and the
fields of their classes name, and what their methods call. It may be asked for one list of
components after the other and keeps what it worked out about classes and methods.

* `UsageFinding` is what is found, in order; `UsageMatch.index` collects the evidence and
  `UsageMatch.records` what the log says. A fault that stops the search makes it all void.
* `UsageFinder.find` is one search; `matchUsage` is one by a finder that has not searched before.
-/

namespace ArchModel

open Source

/-- The greatest number of methods in a chain of calls. -/
def defaultMaxDepth : Nat := 32

/-- One thing that is found. -/
inductive UsageFinding
  /-- A component names another one in a declaration. -/
  | declared (e : Evidence)
  /-- Something met when the calls of a component are followed. -/
  | call (origin : String) (event : CallEvent)
  deriving DecidableEq, Repr

namespace UsageScope

/-- The evidence of types that a declaration of a class names. -/
def declaredEvidence (s : UsageScope) (c : ClassInfo) (source : Component) (kind : UsageKind)
    (types : List ClassId) (line : Nat) (method : Option String) : List UsageFinding :=
  types.filterMap fun t =>
    if t = c.id then none
    else (s.component? t).map fun target => .declared
      { source := source.name, target := target.name, kind
        location := { file := c.path.text, declaration := c.id.qualname, line, method } }

/-- The evidence in the parameters of a method. -/
def paramEvidence (s : UsageScope) (m : SourceModule) (c : ClassInfo) (source : Component)
    (kind : UsageKind) (name : String) (f : Function) : List UsageFinding :=
  f.givenParams.flatMap fun a =>
    s.declaredEvidence c source kind (s.program.hinted m a.hint) a.line (some name)

/-- The evidence in the parameters of the constructor. -/
def constructorEvidence (s : UsageScope) (m : SourceModule) (c : ClassInfo) (source : Component) :
    List UsageFinding :=
  match c.methods.get? constructorName with
  | some f => s.paramEvidence m c source .constructor constructorName f
  | none => []

/-- The evidence in the fields. -/
def fieldEvidence (s : UsageScope) (c : ClassInfo) (source : Component) (fields : Fields) :
    List UsageFinding :=
  fields.values.flatMap fun f => s.declaredEvidence c source .field f.types f.line f.method

/-- The evidence in the signature of a method other than the constructor. -/
def signatureEvidence (s : UsageScope) (m : SourceModule) (c : ClassInfo) (source : Component)
    (name : String) (f : Function) : List UsageFinding :=
  if name == constructorName || f.isProperty then []
  else s.paramEvidence m c source .methodParam name f ++
    s.declaredEvidence c source .methodReturn (s.program.hinted m f.returns) f.line (some name)

/-- What is found in a method of a class, its signature and its calls, behind what was found
before. -/
def scanMethod (s : UsageScope) (m : SourceModule) (c : ClassInfo) (id : ClassId)
    (source : Component) (found : List UsageFinding × CallSearch) (method : String × Function) :
    List UsageFinding × CallSearch :=
  let w := CallSearch.start s id method.1 { found.2 with events := [] }
  (found.1 ++ s.signatureEvidence m c source method.1 method.2 ++
    w.events.map (.call source.name), w)

/-- What is found in a class: the parameters of the constructor, the fields, and for each method its
signature and its calls. -/
def scan (s : UsageScope) (memory : UsageMemory) (id : ClassId) (source : Component) :
    List UsageFinding × UsageMemory :=
  match s.program.class? id with
  | none => ([], memory)
  | some c =>
    match s.program.moduleOf? c with
    | none => ([], memory)
    | some m =>
      let (fields, memory) := memory.fields s.program c
      let (found, w) := c.methods.toList.foldl (s.scanMethod m c id source) ([], { memory })
      (s.constructorEvidence m c source ++ s.fieldEvidence c source fields ++ found, w.memory)

/-- What is found in the classes of components, one after the other. -/
def scanAll (s : UsageScope) : List (ClassId × Component) → UsageMemory →
    List UsageFinding × UsageMemory
  | [], memory => ([], memory)
  | (id, c) :: rest, memory =>
    let (found, memory) := s.scan memory id c
    let (more, memory) := s.scanAll rest memory
    (found ++ more, memory)

end UsageScope

/-- The usage found between components. -/
structure UsageMatch where
  /-- The components whose classes are not in the program. -/
  unresolved : List Component
  /-- What was found, in order. -/
  findings : List UsageFinding
  /-- The fault that stops the search. -/
  fault : Option SourceFault
  deriving Inhabited

namespace Program

/-- The class of a component. -/
def idOf? (p : Program) (c : Component) : Option ClassId :=
  p.idAt? (Path.join {} c.location.file) c.location.declaration

/-- Components by their classes. Of two components of one class the later one counts, at the place
of the first. -/
def componentsById (p : Program) (components : List Component) : Entries ClassId Component :=
  .ofList (components.filterMap fun c => (p.idOf? c).map fun id => (id, c))

end Program

/-- One who looks for usage in a program. -/
structure UsageFinder where
  program : Program
  /-- The greatest number of methods in a chain of calls. -/
  maxDepth : Int
  /-- What earlier searches left. -/
  memory : UsageMemory := {}
  deriving Inhabited

namespace UsageFinder

/-- What a finder looks for usage in when it is asked for components. -/
def scope (f : UsageFinder) (components : List Component) : UsageScope where
  program := f.program
  component? := (f.program.componentsById components).get?
  maxDepth := f.maxDepth

/-- Look for the usage of components by each other. Methods are numbered anew. -/
def find (f : UsageFinder) (components : List Component) : UsageMatch × UsageFinder :=
  let listed := f.program.componentsById components
  let (findings, memory) := (f.scope components).scanAll listed.toList
    { f.memory with arena := [], numbers := ∅ }
  ({ unresolved := components.filter fun c => (f.program.idOf? c).isNone
     findings
     fault := (listed.keys.findSome? fun id => (f.program.class? id).bind f.program.classFault?).or
      (f.program.searchesFault? memory.numbers.keys) },
   { f with memory })

end UsageFinder

/-- Look for the usage of components by each other, without anything known before. -/
def matchUsage (p : Program) (maxDepth : Int) (components : List Component) : UsageMatch :=
  (UsageFinder.find { program := p, maxDepth } components).1

namespace UsageMatch

/-- The index with a finding. -/
def collect (u : UsageIndex) : UsageFinding → UsageIndex
  | .declared e => u.add e
  | .call _ (.own e) => u.add e
  | .call origin (.reach e) => u.addReach origin e
  | .call _ (.capped _) => u

/-- The evidence that was found. -/
def index (m : UsageMatch) : UsageIndex := m.findings.foldl collect {}

/-- What the log says of a finding. -/
def findingRecord? : UsageFinding → Option LogRecord
  | .call _ (.capped labels) =>
    some ⟨"usage", .debug, "Call chain depth cap reached at " ++ Text.join " -> " labels⟩
  | _ => none

/-- What the log says of the search. -/
def records (m : UsageMatch) : List LogRecord :=
  (m.unresolved.map fun c => ⟨"symbols", .warning, "Could not resolve declaration of component " ++
    c.name ++ " at " ++ c.location.text⟩) ++
  m.findings.filterMap findingRecord? ++
  [⟨"usage", .info, "Found " ++ toString m.index.evidence.length ++
    " usage evidence items across " ++ toString m.index.pairs.length ++ " component pairs"⟩]

end UsageMatch

end ArchModel
