import ArchModel.Tag.Schema

/-!
# Tags

A tag as read from its content: arguments by position and typed parameters by name.

* `arg`, `paramText`, `paramList` and `paramBlock` look a value up; an absent value and one of
  another type are read alike, and an empty text counts as absent.
-/

namespace ArchModel

/-- The value of a parameter. -/
inductive ParamValue
  /-- A text, possibly of several lines. -/
  | text (value : String)
  /-- Texts that were separated by commas. -/
  | list (items : List String)
  /-- Keys with a text each. -/
  | block (entries : Entries String String)
  deriving DecidableEq, Repr, Inhabited

/-- The arguments and parameters of one tag. -/
structure Tag where
  /-- The arguments by position. -/
  args : List String := []
  /-- The parameters by name. -/
  params : Entries String ParamValue := ∅
  deriving DecidableEq, Repr, Inhabited

namespace Tag

/-- The argument at a position, unless it is absent or empty. -/
def arg (t : Tag) (position : Nat) : Option String :=
  match t.args[position]? with
  | some s => if s = "" then none else some s
  | none => none

/-- The text of a parameter, unless it is absent, empty or of another type. -/
def paramText (t : Tag) (name : String) : Option String :=
  match t.params.get? name with
  | some (.text s) => if s = "" then none else some s
  | _ => none

/-- The items of a parameter, none when it is absent or of another type. -/
def paramList (t : Tag) (name : String) : List String :=
  match t.params.get? name with
  | some (.list items) => items
  | _ => []

/-- The entries of a parameter, none when it is absent or of another type. -/
def paramBlock (t : Tag) (name : String) : Entries String String :=
  match t.params.get? name with
  | some (.block entries) => entries
  | _ => ∅

end Tag

end ArchModel
