import ArchModel.Text.CodeTable
import ArchModel.Text.NormalTable

/-!
# The composed form of identifiers

Identifiers that differ in the form of their characters alone are the same: letters of a font or a
width of their own stand for plain ones, ligatures for their letters, and letters with marks behind
them for letters that have these marks. The composed form is normalization form KC of Unicode.

* `decompose` replaces a character by all that it stands for, `reorder` puts the marks behind a
  character in the order of their classes, and `compose` joins what can be one character.
* `composedForm` does all three. A text of ASCII characters keeps its form.
-/

namespace ArchModel.Text

/-- The characters composed of two others. -/
def compositions : List CodeEntry := CodeEntry.ofTable compositionTable

/-- The other characters that stand for something else. -/
def compatibilities : List CodeEntry := CodeEntry.ofTable compatibilityTable

/-- The combining characters. -/
def combinings : List CodeEntry := CodeEntry.ofTable combiningTable

/-- The class of a combining character; zero for any other one. -/
def combiningClass (code : Nat) : Nat :=
  ((CodeEntry.find? combinings code).bind (·.values.head?)).getD 0

/-! ## Syllables of Hangul -/

/-- The parts of a syllable: a leading consonant, a vowel, and a trailing consonant if there is
one. -/
def syllableParts? (code : Nat) : Option (List Nat) :=
  if 0xac00 ≤ code ∧ code ≤ 0xd7a3 then
    let n := code - 0xac00
    let trail := if n % 28 = 0 then [] else [0x11a7 + n % 28]
    some ([0x1100 + n / 588, 0x1161 + n % 588 / 28] ++ trail)
  else none

/-- The syllable of a leading consonant and a vowel, or of a syllable that has no trailing consonant
and one. -/
def syllable? (a b : Nat) : Option Nat :=
  if 0x1100 ≤ a ∧ a < 0x1113 ∧ 0x1161 ≤ b ∧ b < 0x1176 then
    some (0xac00 + ((a - 0x1100) * 21 + (b - 0x1161)) * 28)
  else if 0xac00 ≤ a ∧ a ≤ 0xd7a3 ∧ (a - 0xac00) % 28 = 0 ∧ 0x11a7 < b ∧ b < 0x11c3 then
    some (a + (b - 0x11a7))
  else none

/-! ## The three steps -/

/-- All that a code point stands for, where at most `depth` compositions are within one another. -/
def decompose (depth code : Nat) : List Nat :=
  match depth with
  | 0 => [code]
  | depth + 1 =>
    match syllableParts? code, CodeEntry.find? compositions code with
    | some parts, _ => parts
    | none, some e => (e.values.map (decompose depth)).flatten
    | none, none =>
      match CodeEntry.find? compatibilities code with
      | some e => if e.first = e.last then e.values else e.values.map (· + (code - e.first))
      | none => [code]

/-- Put a code point in front of others, behind the marks of lower classes. -/
def insertMark (code : Nat) : List Nat → List Nat
  | [] => [code]
  | d :: ds =>
    if 0 < combiningClass d ∧ combiningClass d < combiningClass code then d :: insertMark code ds
    else code :: d :: ds

/-- The code points with the marks behind each character in the order of their classes. -/
def reorder (codes : List Nat) : List Nat := codes.foldr insertMark []

/-- The code point composed of two others. -/
def composite? (a b : Nat) : Option Nat :=
  match syllable? a b with
  | some s => some s
  | none => (compositions.find? fun e => e.values = [a, b]).map (·.first)

/-- Join a code point with those behind it. The marks between them, last one first, could not be
joined with it. -/
def composeFrom (start : Nat) (marks : List Nat) : List Nat → List Nat
  | [] => start :: marks.reverse
  | code :: codes =>
    let joined :=
      if marks.any fun m => combiningClass code ≤ combiningClass m then none
      else composite? start code
    match joined with
    | some c => composeFrom c marks codes
    | none =>
      if combiningClass code = 0 then start :: (marks.reverse ++ composeFrom code [] codes)
      else composeFrom start (code :: marks) codes

/-- The code points with all joined that can be. -/
def compose : List Nat → List Nat
  | [] => []
  | code :: codes => composeFrom code [] codes

/-- The greatest number of compositions within one another. -/
def compositionDepth : Nat := 4

/-- The composed form of an identifier. -/
def composedForm (s : String) : String :=
  if s.toList.all (·.toNat < 0x80) then s
  else
    let codes := (s.toList.map fun c => decompose compositionDepth c.toNat).flatten
    String.ofList ((compose (reorder codes)).map Char.ofNat)

end ArchModel.Text
