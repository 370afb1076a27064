import ArchModel.Text.Lines
import ArchModel.Yaml.Timestamp

/-!
# The types of plain scalars

A plain scalar is a text unless its form is that of another type of YAML 1.1. `NodeTag.ofForm`
decides the type by the form alone; `NodeTag.ofName` reads the type off an explicit tag.
-/

namespace ArchModel.Yaml

/-- The type of a node. -/
inductive NodeTag
  | text
  | null
  | bool
  | int
  | float
  | timestamp
  /-- Bytes written in base 64. -/
  | binary
  /-- The key `<<`, which merges a mapping into another one. -/
  | merge
  /-- The scalar `=`. -/
  | default
  | sequence
  | mapping
  /-- Keys without values. -/
  | keySet
  /-- Keys with a value each, in order, of which some may be the same. -/
  | pairList
  /-- A tag that has no meaning here. -/
  | other (name : String)
  deriving DecidableEq, Repr, Inhabited

namespace NodeTag

/-- The words for truth values, in lower case. -/
def boolWord? (s : String) : Option Bool :=
  if ["yes", "true", "on"].contains s then some true
  else if ["no", "false", "off"].contains s then some false
  else none

/-- Whether letters are all lower case, all upper case, or lower case after a capital. -/
def isCased (cs : List Char) : Bool :=
  match cs with
  | [] => false
  | c :: cs => cs.all Char.isLower || (c.isUpper && cs.all Char.isUpper)

/-- Whether a text is a truth value. -/
def isBool (cs : List Char) : Bool :=
  isCased cs && (boolWord? (String.ofList (cs.map Char.toLower))).isSome

/-- Whether a text is the null value. -/
def isNull (cs : List Char) : Bool :=
  cs.isEmpty || cs == ['~'] ||
    (isCased cs && cs.map Char.toLower == ['n', 'u', 'l', 'l'])

/-- The list without a sign at its front. -/
def unsigned : List Char → List Char
  | '+' :: cs => cs
  | '-' :: cs => cs
  | cs => cs

/-- A decimal digit or an underscore. -/
def isDigitOrLine (c : Char) : Bool := c.isDigit || c == '_'

/-- Whether parts after a colon are counts of sixty: one digit, or two of which the first is at
most five. -/
def isSixty (part : List Char) : Bool :=
  match part with
  | [a] => a.isDigit
  | [a, b] => a.isDigit && a.toNat ≤ '5'.toNat && b.isDigit
  | _ => false

/-- Whether a text is an integer: binary, octal, decimal, hexadecimal, or counts of sixty. -/
def isInt (cs : List Char) : Bool :=
  match unsigned cs with
  | ['0'] => true
  | '0' :: 'b' :: ds => !ds.isEmpty && ds.all fun c => c == '0' || c == '1' || c == '_'
  | '0' :: 'x' :: ds => !ds.isEmpty && ds.all fun c => (Text.hexDigit? c).isSome || c == '_'
  | '0' :: ds => ds.all fun c => ('0' ≤ c && c ≤ '7') || c == '_'
  | d :: ds =>
    d.isDigit && match ds.splitOn ':' with
      | [] => true
      | first :: parts => first.all isDigitOrLine && parts.all isSixty
  | [] => false

/-- Whether the rest of a number after its fraction is nothing or an exponent with a sign. -/
def isExponent (cs : List Char) : Bool :=
  match cs with
  | [] => true
  | e :: s :: ds =>
    (e == 'e' || e == 'E') && (s == '+' || s == '-') && !ds.isEmpty && ds.all Char.isDigit
  | _ => false

/-- Whether a text is a floating point number: with a point, by counts of sixty with a point,
infinite, or no number. -/
def isFloat (cs : List Char) : Bool :=
  let body := unsigned cs
  if [".inf", ".Inf", ".INF"].contains (String.ofList body) then true
  else if [".nan", ".NaN", ".NAN"].contains (String.ofList cs) then true
  else match cs with
    | '.' :: d :: ds => d.isDigit && isExponent (ds.dropWhile isDigitOrLine)
    | _ =>
      match body with
      | d :: ds =>
        let whole := ds.takeWhile (fun c => isDigitOrLine c || c == ':')
        match ds.drop whole.length with
        | '.' :: fraction =>
          let parts := whole.splitOn ':'
          d.isDigit && match parts with
            | [] => false
            | [_] => isExponent (fraction.dropWhile isDigitOrLine)
            | first :: sixties =>
              first.all isDigitOrLine && sixties.all isSixty && fraction.all isDigitOrLine
        | _ => false
      | [] => false

/-- The start of the tags of YAML. -/
def coreStart : String := "tag:yaml.org,2002:"

/-- The text without a line feed at its end, unless there is nothing else. -/
def dropFinalBreak (cs : List Char) : List Char :=
  if cs.getLast? = some '\n' ∧ cs.length ≠ 1 then cs.dropLast else cs

/-- The type of a scalar by its form. Of a scalar in quotes the form is looked at only if its tag
says so; a line feed at its end then says nothing. -/
def ofForm (s : String) : NodeTag :=
  let cs := dropFinalBreak s.toList
  if isNull cs then null
  else if isBool cs then bool
  else if isInt cs then int
  else if isFloat cs then float
  else if isTimestamp cs then timestamp
  else if cs == ['<', '<'] then merge
  else if cs == ['='] then default
  else if cs == ['!'] || cs == ['&'] || cs == ['*'] then other (coreStart ++ "yaml")
  else text

/-- The type that an explicit tag names. -/
def ofName (name : String) : NodeTag :=
  if Text.startsWith coreStart name then
    match name.toList.drop coreStart.length |> String.ofList with
    | "str" => text
    | "null" => null
    | "bool" => bool
    | "int" => int
    | "float" => float
    | "timestamp" => timestamp
    | "binary" => binary
    | "merge" => merge
    | "value" => default
    | "seq" => sequence
    | "map" => mapping
    | "set" => keySet
    | "omap" | "pairs" => pairList
    | _ => other name
  else other name

end NodeTag

end ArchModel.Yaml
