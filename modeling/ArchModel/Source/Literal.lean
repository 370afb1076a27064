import ArchModel.Source.Token
import ArchModel.Text.Char
import ArchModel.Text.CharName

/-!
# The texts that string literals stand for

Backslashes in a literal write characters that cannot stand there themselves: some letters behind a
backslash have a meaning of their own, digits give a code point, a name in braces names a
character, and a line break is left out. Any other backslash stands for itself.

`WrittenText.decode` gives the text; a malformed escape is a fault. Bytes are checked likewise, but
their contents say nothing here.
-/

namespace ArchModel.Source

open Text

namespace WrittenText

/-- The character that a letter behind a backslash stands for. -/
def letter? (c : Char) : Option Char :=
  match c with
  | '\\' => some '\\'
  | '\'' => some '\''
  | '"' => some '"'
  | 'a' => some '\x07'
  | 'b' => some '\x08'
  | 'f' => some '\x0c'
  | 'n' => some '\n'
  | 'r' => some '\r'
  | 't' => some '\t'
  | 'v' => some '\x0b'
  | _ => none

/-- The character written by a number of hexadecimal digits, and what follows. -/
def hexChar? (width : Nat) (cs : List Char) : Option (Char × List Char) := do
  let ds ← (cs.take width).mapM hexDigit?
  if ds.length < width then none
  return (← charOfCode? (ofDigits 16 ds), cs.drop width)

/-- The character named between braces, and what follows. -/
def namedChar? (cs : List Char) : Option (Char × List Char) :=
  match cs with
  | '\x7b' :: cs => do
    let name := cs.takeWhile (· ≠ '\x7d')
    if name.length = cs.length then none
    return (← charOfName? (String.ofList name), cs.drop (name.length + 1))
  | _ => none

/-- The character that an escape stands for, and what follows; the backslash was passed. An escape
that stands for no character gives an empty list, and one that is none gives the backslash. -/
def escape? (bytes : Bool) (c : Char) (cs : List Char) : Option (List Char × List Char) :=
  match letter? c with
  | some d => some ([d], cs)
  | none =>
    if c = '\n' then some ([], cs)
    else if '0' ≤ c ∧ c ≤ '7' then
      let ds := ((c :: cs).take 3).takeWhile fun d => '0' ≤ d && d ≤ '7'
      some ([Char.ofNat (ofDigits 8 (ds.map fun d => d.toNat - '0'.toNat))],
        (c :: cs).drop ds.length)
    else if c = 'x' then (hexChar? 2 cs).map fun (d, r) => ([d], r)
    else if bytes then some (['\\', c], cs)
    else if c = 'u' then (hexChar? 4 cs).map fun (d, r) => ([d], r)
    else if c = 'U' then (hexChar? 8 cs).map fun (d, r) => ([d], r)
    else if c = 'N' then (namedChar? cs).map fun (d, r) => ([d], r)
    else some (['\\', c], cs)

/-- The characters that the characters of a literal stand for. -/
def decodeChars (bytes : Bool) : Nat → List Char → Option (List Char)
  | 0, _ => some []
  | _ + 1, [] => some []
  | fuel + 1, '\\' :: c :: cs => do
    let (here, rest) ← escape? bytes c cs
    let more ← decodeChars bytes fuel rest
    return here ++ more
  | fuel + 1, c :: cs => (decodeChars bytes fuel cs).map (c :: ·)

/-- The characters that a piece of a literal stands for. -/
def decodePiece (t : WrittenText) (cs : List Char) : Option (List Char) :=
  if t.raw then some cs else decodeChars t.bytes (cs.length + 1) cs

/-- The text that a literal stands for, or what is wrong with it. -/
def decode (t : WrittenText) : Except FaultCause (List Char) :=
  if t.bytes && t.body.any (128 ≤ ·.toNat) then .error .wideByte
  else match t.decodePiece t.body with
    | some cs => .ok cs
    | none => .error .badEscape

end WrittenText

end ArchModel.Source
