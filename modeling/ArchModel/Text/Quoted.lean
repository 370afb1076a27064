import ArchModel.Text.Char

/-!
# Texts in quotes

`quoted` shows a text between quotes: single ones, unless the text has single quotes and no double
ones. The quote in use and the backslash stand behind a backslash, line feed, carriage return and
tab have letters, and every other character that is not printable is written by its code point.
-/

namespace ArchModel.Text

/-- The quote that stands around a text. -/
def quoteFor (cs : List Char) : Char :=
  if cs.contains '\'' && !cs.contains '"' then '"' else '\''

/-- One character between two quotes of a kind. -/
def quotedChar (quote c : Char) : List Char :=
  let n := codeOf c
  if c = quote ∨ c = '\\' then ['\\', c]
  else if c = '\n' then ['\\', 'n']
  else if c = '\r' then ['\\', 'r']
  else if c = '\t' then ['\\', 't']
  else if isPrintable c then [c]
  else if n < 0x100 then '\\' :: 'x' :: digitsPadded 16 2 n
  else if n < 0x10000 then '\\' :: 'u' :: digitsPadded 16 4 n
  else '\\' :: 'U' :: digitsPadded 16 8 n

/-- Bytes in quotes, as a text of the characters with the same numbers of which only those of ASCII
are shown as themselves. -/
def quotedBytes (bytes : List Nat) : String :=
  let cs := bytes.map Char.ofNat
  let q := quoteFor cs
  String.ofList ('b' :: q :: (cs.flatMap (fun c =>
    if 0x80 ≤ c.toNat then '\\' :: 'x' :: digitsPadded 16 2 c.toNat else quotedChar q c) ++ [q]))

/-- A text in quotes. -/
def quoted (s : String) : String :=
  let cs := s.toList
  let q := quoteFor cs
  String.ofList (q :: (cs.flatMap (quotedChar q) ++ [q]))

end ArchModel.Text
