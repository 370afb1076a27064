import ArchModel.Text.Ranges
import ArchModel.Text.WordTable
import ArchModel.Text.PrintableTable
import ArchModel.Text.NameTable

/-!
# Classes of characters

The classes on which the readers of this library depend, all on Unicode code points.

* `isBlank` is white space, as trimmed off both ends of a text and as matched in names.
* `isLineBreak` ends a line of a text.
* `isWord` is a letter, a number or the underscore.
* `isPrintable` is written as itself inside a quoted text.
* `isNameStart`, `isNameContinue` make up the identifiers of program sources.
* `charOfCode?` and `codeOf` lead from code points to characters and back; a text may also hold
  surrogates, which are code points without a character. `inOrder` is the order of texts by code
  points.

Letters and digits of ASCII are told apart by the functions of core.
-/

namespace ArchModel.Text

/-- White space: the blanks and control separators of ASCII, and the separators of Unicode. -/
def isBlank (c : Char) : Bool :=
  let n := c.toNat
  (0x09 ≤ n && n ≤ 0x0d) || (0x1c ≤ n && n ≤ 0x20) || n == 0x85 || n == 0xa0 || n == 0x1680 ||
  (0x2000 ≤ n && n ≤ 0x200a) || n == 0x2028 || n == 0x2029 || n == 0x202f || n == 0x205f ||
  n == 0x3000

/-- The characters that end a line: line feed, vertical tab, form feed, carriage return, the three
upper information separators, next line, and the line and paragraph separators. -/
def isLineBreak (c : Char) : Bool :=
  let n := c.toNat
  (0x0a ≤ n && n ≤ 0x0d) || (0x1c ≤ n && n ≤ 0x1e) || n == 0x85 || n == 0x2028 || n == 0x2029

/-- A letter, a number or the underscore. -/
def isWord (c : Char) : Bool :=
  c.isAlphanum || c == '_' || insideBoundaries wordBoundaries c.toNat

/-- A character that a quoted text shows as itself. -/
def isPrintable (c : Char) : Bool :=
  (0x20 ≤ c.toNat && c.toNat ≤ 0x7e) || insideBoundaries printableBoundaries c.toNat

/-- The first character of an identifier. -/
def isNameStart (c : Char) : Bool :=
  c.isAlpha || c == '_' || insideBoundaries nameStartBoundaries c.toNat

/-- A character of an identifier after the first. -/
def isNameContinue (c : Char) : Bool :=
  c.isAlphanum || c == '_' || insideBoundaries nameContinueBoundaries c.toNat

/-- The value of a hexadecimal digit. -/
def hexDigit? (c : Char) : Option Nat :=
  if c.isDigit then some (c.toNat - '0'.toNat)
  else if 'a' ≤ c ∧ c ≤ 'f' then some (c.toNat - 'a'.toNat + 10)
  else if 'A' ≤ c ∧ c ≤ 'F' then some (c.toNat - 'A'.toNat + 10)
  else none

/-- The number written by a run of digits, most significant first. -/
def ofDigits (base : Nat) (digits : List Nat) : Nat :=
  digits.foldl (fun n d => n * base + d) 0

/-- The number written by decimal digits; characters that are no digits count as nothing. -/
def decimalValue (cs : List Char) : Nat :=
  ofDigits 10 (cs.map fun c => c.toNat - '0'.toNat)

/-- How far above a surrogate its stand-in is. -/
def surrogateShift : Nat := 0xd0000

/-- Whether a character stands for a surrogate. -/
def isSurrogate (c : Char) : Bool :=
  surrogateShift + 0xd800 ≤ c.toNat && c.toNat < surrogateShift + 0xe000

/-- The character of a code point. Surrogates are no characters: characters of a plane that is not
in use stand for them. -/
def charOfCode? (n : Nat) : Option Char :=
  if 0x10ffff < n then none
  else if 0xd800 ≤ n ∧ n < 0xe000 then some (Char.ofNat (surrogateShift + n))
  else some (Char.ofNat n)

/-- The code point of a character, or of the surrogate that it stands for. -/
def codeOf (c : Char) : Nat := if isSurrogate c then c.toNat - surrogateShift else c.toNat

/-- The code points of a text. -/
def codes (s : String) : List Nat := s.toList.map codeOf

/-- Whether two rows of numbers are equal, or the first one is smaller where they differ first. -/
def rowsInOrder : List Nat → List Nat → Bool
  | [], _ => true
  | _ :: _, [] => false
  | a :: as, b :: bs => if a = b then rowsInOrder as bs else decide (a < b)

/-- Whether two texts are in the order of texts, by code points. -/
def inOrder (s t : String) : Bool := rowsInOrder (codes s) (codes t)

/-- The digits of a number in a base of at most sixteen, in lower case, at least `width` of them. -/
def digitsPadded (base width n : Nat) : List Char :=
  let ds := Nat.toDigits base n
  List.replicate (width - ds.length) '0' ++ ds

/-- A text reads as a keyword of lower-case ASCII letters, whatever the case of its letters. Beyond
ASCII the Kelvin sign alone has an ASCII letter as its lower case. -/
def readsAs (keyword s : String) : Bool :=
  s.toList.map (fun c => if c = '\u212a' then 'k' else c.toLower) == keyword.toList

end ArchModel.Text
