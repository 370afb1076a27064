import ArchModel.Entries
import ArchModel.Text.Lines

/-!
# Schemas of tags

A tag has arguments by position and parameters by name. Its schema fixes the type of each, and
which arguments may be left out.

* `Schema` holds the declared shape. A required argument never follows an optional one, and no
  parameter is declared twice; both are part of the type.
* `Schema.ofDeclared` reads a schema off the words that declare it, where a question mark in front
  makes an argument optional.
* `SchemaError` lists everything that can be wrong with a schema or with a tag under one, and
  `SchemaError.message` words it.
-/

namespace ArchModel

/-- The type of an argument or a parameter. -/
inductive ValueType
  /-- A text. -/
  | text
  /-- Texts separated by commas. -/
  | list
  /-- A block of keys with a text each. -/
  | block
  deriving DecidableEq, Repr, Inhabited

namespace ValueType

/-- The word that declares a type. -/
def word : ValueType → String
  | text => "string"
  | list => "list"
  | block => "dict"

/-- The type that a word declares. -/
def ofWord? (s : String) : Option ValueType :=
  if s = "string" then some text
  else if s = "list" then some list
  else if s = "dict" then some block
  else none

theorem ofWord?_word (t : ValueType) : ofWord? t.word = some t := by
  cases t <;> decide

end ValueType

/-- What can be wrong with a schema, or with the content of a tag under a schema. -/
inductive SchemaError
  /-- An argument is declared with a word that names no type. -/
  | unknownArgType (declared : String) (position : Nat)
  /-- A required argument is declared after an optional one. -/
  | requiredAfterOptional
  /-- A parameter is declared with a word that names no type. -/
  | unknownParamType (declared name : String)
  /-- A required argument is absent or empty. -/
  | missingArg (position : Nat)
  /-- There are more arguments than the schema declares. -/
  | tooManyArgs (expected found : Nat)
  /-- A parameter line has no name. -/
  | namelessParam (line : String)
  /-- A parameter is not declared. -/
  | unknownParam (name : String)
  /-- A multi-line value is not closed. -/
  | unterminated (name : String)
  /-- A parameter with a block type is given a text. -/
  | blockExpected (name : String)
  deriving DecidableEq, Repr

namespace SchemaError

/-- The wording of an error. -/
def message : SchemaError → String
  | unknownArgType declared position =>
    "Unknown argument type '" ++ declared ++ "' at position " ++ toString position
  | requiredAfterOptional => "Required arguments cannot follow optional arguments"
  | unknownParamType declared name =>
    "Unknown type '" ++ declared ++ "' for parameter '" ++ name ++ "'"
  | missingArg position => "Missing required argument at position " ++ toString position
  | tooManyArgs expected found =>
    "Too many arguments. Expected " ++ toString expected ++ ", got " ++ toString found
  | namelessParam line => "Malformed parameter line: '" ++ line ++ "'"
  | unknownParam name => "Unknown parameter: " ++ name
  | unterminated name => "Unterminated multi-line value for parameter '" ++ name ++ "'"
  | blockExpected name => "Parameter '" ++ name ++ "' expects a key/value block"

end SchemaError

/-- The declaration of one argument. -/
structure ArgSpec where
  /-- The type of the argument. -/
  type : ValueType
  /-- Whether the argument may be left out. -/
  optional : Bool := false
  deriving DecidableEq, Repr, Inhabited

namespace ArgSpec

/-- The word that declares an argument. -/
def word (a : ArgSpec) : String := if a.optional then "?" ++ a.type.word else a.type.word

/-- The argument that a word declares. -/
def ofWord? (s : String) : Option ArgSpec :=
  match s.toList with
  | '?' :: cs => (ValueType.ofWord? (String.ofList cs)).map fun t => ⟨t, true⟩
  | _ => (ValueType.ofWord? s).map fun t => ⟨t, false⟩

end ArgSpec

/-- Arguments of which no required one follows an optional one. -/
def RequiredFirst (args : List ArgSpec) : Prop :=
  args.Pairwise fun a b => a.optional = true → b.optional = true

instance (args : List ArgSpec) : Decidable (RequiredFirst args) :=
  inferInstanceAs (Decidable (args.Pairwise _))

/-- The expected shape of a tag. -/
structure Schema where
  /-- The arguments by position. -/
  args : List ArgSpec := []
  /-- The parameters by name. -/
  params : Entries String ValueType := ∅
  /-- Required arguments come first. -/
  requiredFirst : RequiredFirst args := by decide

namespace Schema

/-- The argument declarations read off their words, the ones before being `earlier`. -/
def readArgs (earlier : List ArgSpec) : List String → Except SchemaError (List ArgSpec)
  | [] => .ok earlier
  | word :: words =>
    match ArgSpec.ofWord? word with
    | none => .error (.unknownArgType word earlier.length)
    | some a =>
      if earlier.any (·.optional) && !a.optional then .error .requiredAfterOptional
      else readArgs (earlier ++ [a]) words

/-- The parameter declarations read off their words. -/
def readParams (declared : Entries String String) :
    Except SchemaError (Entries String ValueType) :=
  declared.toList.foldlM (fun e (name, word) =>
    match ValueType.ofWord? word with
    | none => .error (.unknownParamType word name)
    | some t => .ok (e.insert name t)) ∅

/-- The schema declared by words; the arguments are checked before the parameters. -/
def ofDeclared (args : List String) (params : Entries String String) :
    Except SchemaError Schema := do
  let args ← readArgs [] args
  let params ← readParams params
  if h : RequiredFirst args then .ok { args, params, requiredFirst := h }
  else .error .requiredAfterOptional

end Schema

end ArchModel
