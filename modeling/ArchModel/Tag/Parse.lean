import ArchModel.Tag.Basic

/-!
# Reading the content of a tag

The content of a tag is read line by line, each line trimmed and blank ones left out. The lines
before the first dash make up the arguments, divided by bars; the lines from there on declare the
parameters:

    PaymentService | Charges the customer | HTTP
    - tags: DirectRelation, critical
    - properties:
      owner: payments-team
      sla: 99.9

* `ParamReader` is the state of reading parameters, and `ParamReader.step` reads one line. A value
  that opens with three quotes runs over the following lines up to the next three quotes; a block
  takes the following lines with a colon up to the next dash.
* `Schema.parseParams` reads all lines (`parseParams_append` divides a run in two).
* `Schema.parse` reads the whole content.
-/

namespace ArchModel

open Text

/-- The delimiter of multi-line values. -/
def multiline : String := "\"\"\""

/-- A text without the quotes around it, if it is in quotes. -/
def unquote (s : String) : String :=
  match s.toList with
  | '"' :: c :: cs =>
    if (c :: cs).getLast? = some '"' then String.ofList (c :: cs).dropLast else s
  | _ => s

namespace Schema

/-- The arguments written in a text: its parts between bars, each trimmed and out of its quotes. -/
def readArgText (s : String) : List String :=
  let s := strip s
  if s = "" then []
  else (split '|' s).map fun part => unquote (strip part)

/-- Arguments are accepted when every required one is given and none is left over. -/
def checkArgs (schema : Schema) (args : List String) : Except SchemaError Unit :=
  let missing := schema.args.zipIdx.find? fun (spec, i) =>
    !spec.optional && args.getD i "" == ""
  match missing with
  | some (_, i) => .error (.missingArg i)
  | none =>
    if schema.args.length < args.length then
      .error (.tooManyArgs schema.args.length args.length)
    else .ok ()

/-- The value that a text stands for under a declared type. -/
def convert (name : String) (type : ValueType) (value : String) :
    Except SchemaError ParamValue :=
  match type with
  | .text => .ok (.text value)
  | .list => .ok (.list (((split ',' value).map strip).filter (· ≠ "")))
  | .block => .error (.blockExpected name)

end Schema

/-- What the lines read last have left open. -/
inductive OpenParam
  /-- Nothing: the next line is a parameter line or is skipped. -/
  | none
  /-- A multi-line value, with its lines so far. -/
  | value (name : String) (lines : List String)
  /-- A block, with its entries so far. -/
  | block (name : String) (entries : Entries String String)
  deriving DecidableEq, Repr

/-- The state of reading parameter lines. -/
structure ParamReader where
  /-- The parameters that are complete. -/
  params : Entries String ParamValue := ∅
  /-- The parameter that is still open. -/
  opened : OpenParam := .none
  deriving DecidableEq, Repr

namespace ParamReader

/-- Read one line as a parameter line, nothing being open. A line without a dash is skipped. -/
def openLine (schema : Schema) (params : Entries String ParamValue) (line : String) :
    Except SchemaError ParamReader :=
  match line.toList with
  | '-' :: rest => do
    let (name, value) := cut ':' (String.ofList rest)
    let name := strip name
    let value := strip value
    if name = "" then throw (.namelessParam line)
    match schema.params.get? name with
    | none => throw (.unknownParam name)
    | some type =>
      if startsWith multiline value then
        let rest := String.ofList (value.toList.drop 3)
        match cutSeq multiline rest with
        | some (inner, _) =>
          let v ← Schema.convert name type (strip inner)
          return { params := params.insert name v }
        | none =>
          let first := strip rest
          return { params, opened := .value name (if first = "" then [] else [first]) }
      else if value = "" && type == .block then
        return { params, opened := .block name ∅ }
      else
        let v ← Schema.convert name type value
        return { params := params.insert name v }
  | _ => return { params }

/-- Read one trimmed line that is not blank. -/
def step (schema : Schema) (r : ParamReader) (line : String) : Except SchemaError ParamReader :=
  match r.opened with
  | .value name lines =>
    match cutSeq multiline line with
    | some (head, _) => do
      let head := strip head
      let lines := if head = "" then lines else lines ++ [head]
      let v ← Schema.convert name ((schema.params.get? name).getD .text) (join "\n" lines)
      return { params := r.params.insert name v }
    | none => return { r with opened := .value name (lines ++ [line]) }
  | .block name entries =>
    if !startsWith "-" line && containsChar ':' line then
      let (key, value) := cut ':' line
      return { r with opened := .block name (entries.insert (strip key) (strip value)) }
    else openLine schema (r.params.insert name (.block entries)) line
  | .none => openLine schema r.params line

/-- The parameters at the end of the lines; a block ends there, a multi-line value must not. -/
def finish (r : ParamReader) : Except SchemaError (Entries String ParamValue) :=
  match r.opened with
  | .none => .ok r.params
  | .value name _ => .error (.unterminated name)
  | .block name entries => .ok (r.params.insert name (.block entries))

end ParamReader

namespace Schema

/-- The parameters declared by trimmed lines that are not blank. -/
def parseParams (schema : Schema) (lines : List String) :
    Except SchemaError (Entries String ParamValue) := do
  let r ← lines.foldlM (ParamReader.step schema) {}
  r.finish

/-- The lines of a content, trimmed, without the blank ones. -/
def contentLines (content : String) : List String :=
  ((lines content).map strip).filter (· ≠ "")

/-- The tag that a content stands for under a schema. -/
def parse (schema : Schema) (content : String) : Except SchemaError Tag := do
  let ls := contentLines content
  let isArg := fun line => !startsWith "-" line
  let args := readArgText (join " " (ls.takeWhile isArg))
  schema.checkArgs args
  let params ← schema.parseParams (ls.dropWhile isArg)
  return { args, params }

end Schema

end ArchModel
