import ArchModel.Text.CharNameTable
import ArchModel.Text.Lines

/-!
# Characters by name

Most names of characters stand in a table (`charNames`), where small and capital letters are not
told apart. The ideographs of some blocks are named by their code points, and the syllables of
Hangul by the names of their parts.

* `NameSearch.run` looks a name up in the table.
* `charOfName?` is the character of a name.
-/

namespace ArchModel.Text

/-! ## The table -/

/-- The state of looking up a name while the table is read. -/
structure NameSearch where
  /-- The code point whose name is read. -/
  code : Nat := 0
  /-- The code point written in front of a name, as far as it was read. -/
  written : Option Nat := none
  /-- The number of characters that the name wanted shares with the one that is read. -/
  shared : Nat := 0
  /-- What is left of the name wanted; nothing if another one is read. -/
  left : Option (List Char) := none
  /-- The code point of the name wanted. -/
  found : Option Nat := none
  deriving Repr, Inhabited

namespace NameSearch

/-- What a character of the table stands for in a name. -/
def expand (c : Char) : List Char :=
  if 'a' ≤ c ∧ c ≤ 'z' then (nameWords.getD (c.toNat - 'a'.toNat) "").toList else [c]

/-- The end of a name. -/
def close (s : NameSearch) : NameSearch :=
  if s.left = some [] then { s with found := some (s.found.getD s.code), left := none }
  else { s with left := none }

/-- Pass a character of a name. -/
def pass (s : NameSearch) (c : Char) : NameSearch :=
  match s.left with
  | some (d :: ds) =>
    if c = d then { s with shared := s.shared + 1, left := some ds } else { s with left := none }
  | _ => { s with left := none }

/-- Start a name that shares its first characters with the name before it. -/
def start (wanted : List Char) (s : NameSearch) (kept : Nat) : NameSearch :=
  let code := s.written.getD (s.code + 1)
  if kept ≤ s.shared then
    { s with code, written := none, shared := kept, left := some (wanted.drop kept) }
  else { s with code, written := none, left := none }

/-- Pass a character of the table. -/
def step (wanted : List Char) (s : NameSearch) (c : Char) : NameSearch :=
  if c = '\n' then s
  else if c = '=' then { s.close with written := some 0 }
  else if 'À' ≤ c then s.close.start wanted (c.toNat - 'À'.toNat)
  else match s.written with
    | some n => { s with written := some (16 * n + (hexDigit? c).getD 0) }
    | none => (expand c).foldl pass s

/-- The code point of a name in the table. -/
def run (name : String) : Option Nat :=
  (charNames.foldl (step (name.toList.map Char.toUpper)) {}).close.found

end NameSearch

/-! ## Names with code points -/

/-- The ends of the blocks of ideographs with one name each. -/
def unifiedIdeographs : List (Nat × Nat) :=
  [(0x3400, 0x4dbf), (0x4e00, 0x9fff), (0x20000, 0x2a6df), (0x2a700, 0x2b738), (0x2b740, 0x2b81d),
    (0x2b820, 0x2cea1), (0x2ceb0, 0x2ebe0), (0x30000, 0x3134a)]

/-- What names in other blocks start with, and the ends of these blocks. -/
def numberedNames : List (String × Nat × Nat) :=
  [("CJK COMPATIBILITY IDEOGRAPH-", 0xf900, 0xfa6d), ("CJK COMPATIBILITY IDEOGRAPH-", 0xfa70, 0xfad9),
    ("CJK COMPATIBILITY IDEOGRAPH-", 0x2f800, 0x2fa1d),
    ("KHITAN SMALL SCRIPT CHARACTER-", 0x18b00, 0x18cd5), ("NUSHU CHARACTER-", 0x1b170, 0x1b2fb)]

/-- The code point written by four or five hexadecimal digits without small letters. -/
def codeOfDigits? (cs : List Char) : Option Nat := do
  if cs.any Char.isLower ∨ (cs.length ≠ 4 ∧ cs.length ≠ 5) then none
  return ofDigits 16 (← cs.mapM hexDigit?)

/-- The code point of a name that says its code point. -/
def numberedCode? (start : String) (name : String) : Option Nat :=
  if startsWith start name then codeOfDigits? (name.toList.drop start.length) else none

/-! ## Syllables -/

/-- The names of the consonants that lead a syllable. -/
def leadNames : List String :=
  ["G", "GG", "N", "D", "DD", "R", "M", "B", "BB", "S", "SS", "", "J", "JJ", "C", "K", "T", "P", "H"]

/-- The names of the vowels. -/
def vowelNames : List String :=
  ["A", "AE", "YA", "YAE", "EO", "E", "YEO", "YE", "O", "WA", "WAE", "OE", "YO", "U", "WEO", "WE",
    "WI", "YU", "EU", "YI", "I"]

/-- The names of the consonants at the end of a syllable, of which there may be none. -/
def trailNames : List String :=
  ["", "G", "GG", "GS", "N", "NJ", "NH", "D", "L", "LG", "LM", "LB", "LS", "LT", "LP", "LH", "M",
    "B", "BS", "S", "SS", "NG", "J", "C", "K", "T", "P", "H"]

/-- The place of the longest of some names that a text starts with, and what follows. -/
def longestName? (names : List String) (cs : List Char) : Option (Nat × List Char) :=
  let fitting := names.zipIdx.filter fun (s, _) => s.toList.isPrefixOf cs
  (fitting.foldl (fun best (s, i) => match best with
    | some (t, j) => if t.length < s.length then some (s, i) else some (t, j)
    | none => some (s, i)) none).map fun (s, i) => (i, cs.drop s.length)

/-- The code point of a syllable by the names of its parts. -/
def syllableOfName? (cs : List Char) : Option Nat := do
  let (lead, cs) ← longestName? leadNames cs
  let (vowel, cs) ← longestName? vowelNames cs
  let (trail, cs) ← longestName? trailNames cs
  if cs.isEmpty then return 0xac00 + (lead * 21 + vowel) * 28 + trail else none

/-- The start of the names of syllables. -/
def syllableStart : String := "HANGUL SYLLABLE "

/-- The start of the names of ideographs. -/
def ideographStart : String := "CJK UNIFIED IDEOGRAPH-"

/-- The code point of a name. Numbers in names may start with a zero for the ideographs of
`unifiedIdeographs` alone. -/
def codeOfName? (name : String) : Option Nat :=
  if startsWith syllableStart name then syllableOfName? (name.toList.drop syllableStart.length)
  else if startsWith ideographStart name then
    (numberedCode? ideographStart name).filter fun n =>
      unifiedIdeographs.any fun (first, last) => first ≤ n && n ≤ last
  else
    let upper := String.ofList (name.toList.map Char.toUpper)
    match numberedNames.findSome? fun (start, first, last) =>
      if startsWith (start ++ "0") upper then none
      else (numberedCode? start upper).filter fun n => first ≤ n && n ≤ last with
    | some n => some n
    | none => NameSearch.run name

/-- The character of a name. -/
def charOfName? (name : String) : Option Char := (codeOfName? name).map Char.ofNat

end ArchModel.Text
