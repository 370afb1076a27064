import ArchModel.Entries
import ArchModel.Text.Char

/-!
# Reports as JSON

Reports are JSON values whose fields keep their order.

* `Json.escape` writes a text with ASCII characters alone; a character beyond the basic plane is
  written as two units of sixteen bits.
* `Json.compact` writes a value on one line, `Json.pretty` on several with an indentation of two.
-/

namespace ArchModel

/-- A JSON value. The fields of an object keep their order. -/
inductive Json
  | null
  | bool (value : Bool)
  | number (value : Int)
  | text (value : String)
  | array (items : List Json)
  | object (fields : List (String × Json))
  deriving Inhabited, Repr

namespace Json

open Text

/-! ## Building values -/

/-- A text, or null. -/
def ofText? : Option String → Json
  | some s => text s
  | none => null

/-- A list of texts. -/
def ofTexts (l : List String) : Json := array (l.map text)

/-- A natural number. -/
def ofNat (n : Nat) : Json := number n

/-- A list of values of one kind. -/
def ofList {α : Type} (f : α → Json) (l : List α) : Json := array (l.map f)

/-- A value that may be absent. -/
def ofOption {α : Type} (f : α → Json) : Option α → Json
  | some a => f a
  | none => null

/-- Entries with a text each. -/
def ofTextEntries (e : Entries String String) : Json :=
  object (e.toList.map fun (k, v) => (k, text v))

/-! ## Writing -/

/-- A unit of sixteen bits as an escape. -/
def escapeUnit (n : Nat) : List Char := '\\' :: 'u' :: digitsPadded 16 4 n

/-- One character of a text. -/
def escapeChar (c : Char) : List Char :=
  let n := codeOf c
  if c = '"' then ['\\', '"']
  else if c = '\\' then ['\\', '\\']
  else if c = '\n' then ['\\', 'n']
  else if c = '\r' then ['\\', 'r']
  else if c = '\t' then ['\\', 't']
  else if n = 0x0c then ['\\', 'f']
  else if n = 0x08 then ['\\', 'b']
  else if 0x20 ≤ n ∧ n ≤ 0x7e then [c]
  else if n < 0x10000 then escapeUnit n
  else escapeUnit (0xd800 + (n - 0x10000) / 0x400) ++ escapeUnit (0xdc00 + (n - 0x10000) % 0x400)

/-- A text in quotes. -/
def escape (s : String) : String := "\"" ++ String.ofList (s.toList.flatMap escapeChar) ++ "\""

/-- The word of a truth value. -/
def boolWord (b : Bool) : String := if b then "true" else "false"

mutual

/-- The value on one line. -/
def compact : Json → String
  | null => "null"
  | bool b => boolWord b
  | number n => toString n
  | text s => escape s
  | array items => "[" ++ ",".intercalate (compactItems items) ++ "]"
  | object fields => "\x7b" ++ ",".intercalate (compactFields fields) ++ "\x7d"

/-- The items of an array, each on one line. -/
def compactItems : List Json → List String
  | [] => []
  | v :: vs => compact v :: compactItems vs

/-- The fields of an object, each on one line. -/
def compactFields : List (String × Json) → List String
  | [] => []
  | (k, v) :: fs => (escape k ++ ":" ++ compact v) :: compactFields fs

end

/-- The start of a line at a depth of nesting. -/
def lineStart (depth : Nat) : String := "\n" ++ String.ofList (List.replicate (2 * depth) ' ')

mutual

/-- The value on several lines, at a depth of nesting; empty arrays and objects take one. -/
def prettyAt (depth : Nat) : Json → String
  | null => "null"
  | bool b => boolWord b
  | number n => toString n
  | text s => escape s
  | array [] => "[]"
  | array (v :: vs) =>
    "[" ++ ",".intercalate (prettyItems (depth + 1) (v :: vs)) ++ lineStart depth ++ "]"
  | object [] => "\x7b\x7d"
  | object (f :: fs) =>
    "\x7b" ++ ",".intercalate (prettyFields (depth + 1) (f :: fs)) ++ lineStart depth ++ "\x7d"

/-- The items of an array, each from a line of its own on. -/
def prettyItems (depth : Nat) : List Json → List String
  | [] => []
  | v :: vs => (lineStart depth ++ prettyAt depth v) :: prettyItems depth vs

/-- The fields of an object, each from a line of its own on. -/
def prettyFields (depth : Nat) : List (String × Json) → List String
  | [] => []
  | (k, v) :: fs =>
    (lineStart depth ++ escape k ++ ": " ++ prettyAt depth v) :: prettyFields depth fs

end

/-- The value on several lines. -/
def pretty (v : Json) : String := prettyAt 0 v

end Json

end ArchModel
