import ArchModel.Text.Char
import ArchModel.Text.Lines

/-!
# Tables of code points

A table says something of code points or of runs of them. It is written with one entry behind the
other, blanks between them; an entry is a code point, or the first and the last one of a run with a
hyphen between them, and then numbers with a dot in front of each one. All numbers are hexadecimal.

* `CodeEntry.ofTable` reads a table.
* `CodeEntry.find?` is the entry of a code point.
-/

namespace ArchModel.Text

/-- What a table says of the code points of a run. -/
structure CodeEntry where
  first : Nat
  last : Nat
  /-- What the table says. -/
  values : List Nat
  deriving DecidableEq, Repr, Inhabited

namespace CodeEntry

/-- The number that hexadecimal digits write. -/
def hexValue (cs : List Char) : Nat := ofDigits 16 (cs.filterMap hexDigit?)

/-- The entry that a text writes. -/
def ofText (s : String) : CodeEntry :=
  let numbers := (split '.' s).map fun t => (split '-' t).map fun d => hexValue d.toList
  let run := numbers.headD []
  { first := run.headD 0, last := run.getLastD 0, values := numbers.tail.flatten }

/-- The entries of a table. -/
def ofTable (s : String) : List CodeEntry :=
  ((split ' ' (String.ofList (s.toList.map fun c => if c = '\n' then ' ' else c))).filter
    (· ≠ "")).map ofText

/-- The entry of a code point. -/
def find? (table : List CodeEntry) (code : Nat) : Option CodeEntry :=
  table.find? fun e => e.first ≤ code && code ≤ e.last

end CodeEntry

end ArchModel.Text
