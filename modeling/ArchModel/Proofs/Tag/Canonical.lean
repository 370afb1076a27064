import ArchModel.Proofs.Text.Cut
import ArchModel.Proofs.Entries
import ArchModel.Tag.Render

/-!
# Canonical tags

A tag is canonical under a schema if each of its texts is of the form in which reading gives texts
and in which writing keeps them.

* `ParamValue.Canonical`: the values of each type.
* `ArgsFit`, `ListFits`: what writing asks of arguments and of lists beyond what it is to be read.
* `Tag.Canonical`: arguments and parameters that the schema accepts, all canonical.
* `Tag.Writable`: the conditions of writing alone.
-/

namespace ArchModel

open Text

/-! ## Arguments -/

/-- A text of two characters or more with a double quote at either end. -/
def InQuotes (s : String) : Prop :=
  2 ≤ s.toList.length ∧ s.toList.head? = some '"' ∧ s.toList.getLast? = some '"'

/-- An argument as it is read: it has no bar and no line break. -/
def IsArgument (a : String) : Prop := '|' ∉ a.toList ∧ OneLine a

/-- Arguments that are kept when they are written on a line between bars. -/
structure ArgsFit (args : List String) : Prop where
  /-- The last one is not empty. -/
  last : args.getLast? ≠ some ""
  trimmed : ∀ a ∈ args, Trimmed a
  unquoted : ∀ a ∈ args, ¬InQuotes a
  /-- The line does not begin with a dash. -/
  noDash : ∀ a ∈ args.head?, a.toList.head? ≠ some '-'

/-! ## Parameters -/

/-- The name of a parameter: trimmed, not empty, without a colon, on one line. -/
def IsParamName (name : String) : Prop :=
  name ≠ "" ∧ Trimmed name ∧ ':' ∉ name.toList ∧ OneLine name

/-- A line of a text of several lines: trimmed, not empty, without three quotes. -/
def IsPiece (s : String) : Prop :=
  s ≠ "" ∧ Trimmed s ∧ OneLine s ∧ ¬multiline.toList <:+: s.toList

/-- A text that is written as it is: a trimmed line that does not begin with three quotes, or two
pieces or more under each other. -/
inductive CanonicalText : String → Prop
  | line {s : String} (trimmed : Trimmed s) (oneLine : OneLine s)
      (start : startsWith multiline s = false) : CanonicalText s
  | lines {pieces : List String} (two : 2 ≤ pieces.length) (each : ∀ p ∈ pieces, IsPiece p) :
      CanonicalText (join "\n" pieces)

/-- An item of a list: trimmed, not empty, without a comma. -/
def IsItem (s : String) : Prop := s ≠ "" ∧ Trimmed s ∧ ',' ∉ s.toList

/-- Lists that are kept when they are written on a line with commas in between. -/
structure ListFits (items : List String) : Prop where
  oneLine : ∀ i ∈ items, OneLine i
  /-- The list does not begin with three quotes. -/
  start : ∀ i ∈ items.head?, startsWith multiline i = false

/-- An entry of a block: both texts are trimmed and on one line, and the key has no colon and does
not begin with a dash. -/
structure IsEntry (key item : String) : Prop where
  trimmed : Trimmed key ∧ Trimmed item
  oneLine : OneLine key ∧ OneLine item
  noColon : ':' ∉ key.toList
  noDash : key.toList.head? ≠ some '-'

/-- The type of a value. -/
def ParamValue.type : ParamValue → ValueType
  | .text _ => .text
  | .list _ => .list
  | .block _ => .block

/-- The canonical values of a type. -/
def ParamValue.Canonical : ValueType → ParamValue → Prop
  | .text, .text value => CanonicalText value
  | .list, .list items => (∀ i ∈ items, IsItem i) ∧ ListFits items
  | .block, .block entries => ∀ e ∈ entries.toList, IsEntry e.1 e.2
  | _, _ => False

/-! ## Tags -/

/-- The arguments that a schema accepts: no more than it declares, and every required one given. -/
structure Schema.Accepts (schema : Schema) (args : List String) : Prop where
  length_le : args.length ≤ schema.args.length
  given : ∀ i spec, schema.args[i]? = some spec → spec.optional = false → args.getD i "" ≠ ""

/-- A tag that writing and reading again keeps as it is. -/
structure Tag.Canonical (schema : Schema) (t : Tag) : Prop where
  accepted : schema.Accepts t.args
  arguments : ∀ a ∈ t.args, IsArgument a
  argsFit : ArgsFit t.args
  names : ∀ name ∈ t.params.keys, IsParamName name
  /-- Each parameter is declared, with the type of its value. -/
  values : ∀ name value, t.params.get? name = some value →
    ∃ type, schema.params.get? name = some type ∧ value.Canonical type

/-- A tag whose arguments and lists can be written. -/
structure Tag.Writable (t : Tag) : Prop where
  args : ArgsFit t.args
  lists : ∀ name items, t.params.get? name = some (.list items) → ListFits items

instance (s : String) : Decidable (InQuotes s) := inferInstanceAs (Decidable (_ ∧ _ ∧ _))

instance (a : String) : Decidable (IsArgument a) := inferInstanceAs (Decidable (_ ∧ _))

instance (name : String) : Decidable (IsParamName name) :=
  inferInstanceAs (Decidable (_ ∧ _ ∧ _ ∧ _))

instance (s : String) : Decidable (IsPiece s) := inferInstanceAs (Decidable (_ ∧ _ ∧ _ ∧ _))

instance (s : String) : Decidable (IsItem s) := inferInstanceAs (Decidable (_ ∧ _ ∧ _))

instance (args : List String) : Decidable (ArgsFit args) :=
  decidable_of_iff (args.getLast? ≠ some "" ∧ (∀ a ∈ args, Trimmed a) ∧
      (∀ a ∈ args, ¬InQuotes a) ∧ ∀ a ∈ args.head?, a.toList.head? ≠ some '-')
    ⟨fun ⟨h₁, h₂, h₃, h₄⟩ => ⟨h₁, h₂, h₃, h₄⟩, fun ⟨h₁, h₂, h₃, h₄⟩ => ⟨h₁, h₂, h₃, h₄⟩⟩

/-! ## Types, acceptance and quotes -/

theorem ParamValue.Canonical.type_eq {value : ParamValue} {type : ValueType}
    (h : value.Canonical type) : value.type = type := by
  cases type <;> cases value <;> first | rfl | exact h.elim

theorem Schema.checkArgs_eq_ok_iff {schema : Schema} {args : List String} :
    schema.checkArgs args = .ok () ↔ schema.Accepts args := by
  unfold checkArgs
  dsimp only
  constructor
  · intro h
    split at h
    · cases h
    · next none =>
      split at h
      · cases h
      · next short =>
        refine ⟨by omega, fun i spec hi required => ?_⟩
        have := List.find?_eq_none.1 none (spec, i)
          (by simpa [List.mem_zipIdx_iff_getElem?] using hi)
        simpa [required] using this
  · intro h
    split
    · next spec i missing =>
      have hi : schema.args[i]? = some spec := by
        simpa [List.mem_zipIdx_iff_getElem?] using List.mem_of_find?_eq_some missing
      have absent := List.find?_some missing
      simp only [Bool.and_eq_true, Bool.not_eq_true', beq_iff_eq] at absent
      exact absurd absent.2 (h.given i spec hi absent.1)
    · rw [if_neg (by have := h.length_le; omega)]

theorem unquote_eq_self_iff {s : String} : unquote s = s ↔ ¬InQuotes s := by
  unfold unquote InQuotes
  split
  · next c cs hs =>
    split
    · next hl =>
      refine iff_of_false (fun h => ?_) (by simp [hs, hl])
      have shorter := congrArg List.length (congrArg String.toList h)
      simp only [hs, String.toList_ofList, List.length_dropLast, List.length_cons] at shorter
      omega
    · next hl => simp [hs, hl]
  · next h =>
    refine iff_of_true rfl fun ⟨two, head, _⟩ => ?_
    match hs : s.toList, two, head with
    | _ :: c :: cs, _, rfl => exact h c cs hs

end ArchModel
