import ArchModel.Decimal.Binary64
import ArchModel.Text.DigitTable
import ArchModel.Text.Lines
import ArchModel.Yaml.ValueFault

/-!
# Numbers in scalars

What a scalar stands for as a number is decided more leniently than whether a plain scalar is a
number (`Yaml.Implicit`): a tag may make a number of any text.

* `readInteger` reads an integer in a base and `readFloat?` a floating point number: with blanks
  around it, a sign, and the decimal digits of any script.
* `integerOf` and `floatOf` read the text of a scalar. Underscores in it say nothing, and colons
  separate counts of sixty.
-/

namespace ArchModel.Yaml

open Text

/-! ## Digits and signs -/

/-- The greatest number of decimal digits of an integer. -/
def mostDigits : Nat := 4300

/-- A blank beside a number. -/
def isNumberBlank (c : Char) : Bool :=
  c == ' ' || ('\t' ≤ c && c ≤ '\r') || (0x80 ≤ c.toNat && isBlank c)

/-- The character with which a digit of any script is written in ASCII; any other character is
itself. -/
def asciiDigit (c : Char) : Char :=
  if c.toNat < 0x80 then c
  else match digitZeros.find? fun n => n ≤ c.toNat && c.toNat < n + 10 with
    | some n => Char.ofNat ('0'.toNat + (c.toNat - n))
    | none => c

/-- A text without the blanks around it and with digits in ASCII. -/
def trimNumber (cs : List Char) : List Char :=
  ((cs.dropWhile isNumberBlank).reverse.dropWhile isNumberBlank).reverse.map asciiDigit

/-- Whether a text starts with a minus sign, and the text without a sign at its front. -/
def takeSign : List Char → Bool × List Char
  | '-' :: cs => (true, cs)
  | '+' :: cs => (false, cs)
  | cs => (false, cs)

/-- The digits of a base, all of them. -/
def digits? (base : Nat) (cs : List Char) : Option Nat := do
  if cs.isEmpty then none
  let ds ← cs.mapM hexDigit?
  if ds.all (· < base) then return ofDigits base ds else none

/-! ## Integers -/

/-- The letter that may say the base of a number, behind a zero. -/
def baseLetter? (base : Nat) : Option Char :=
  match base with
  | 2 => some 'b'
  | 8 => some 'o'
  | 16 => some 'x'
  | _ => none

/-- The text of a number without the mark of its base. -/
def dropBase (base : Nat) : List Char → List Char
  | '0' :: c :: cs => if baseLetter? base = some c.toLower then cs else '0' :: c :: cs
  | cs => cs

/-- The integer that a text writes in a base. -/
def readInteger (base : Nat) (cs : List Char) : Except ValueFault Int :=
  let (negative, body) := takeSign (trimNumber cs)
  let body := dropBase base body
  if base = 10 ∧ mostDigits < body.length then .error .longNumber
  else match digits? base body with
    | some n => .ok (if negative then -(n : Int) else n)
    | none => .error .number

/-- The integer that the text of a scalar without a sign at its front stands for: binary,
hexadecimal, octal or decimal, or counts of sixty. -/
def unsignedInteger (cs : List Char) : Except ValueFault Int :=
  match cs with
  | [] => .error .emptyNumber
  | '0' :: 'b' :: ds => readInteger 2 ds
  | '0' :: 'x' :: ds => readInteger 16 ds
  | ['0'] => .ok 0
  | '0' :: _ => readInteger 8 cs
  | _ =>
    if cs.contains ':' then do
      return (← (cs.splitOn ':').mapM (readInteger 10)).foldl (fun n d => 60 * n + d) 0
    else readInteger 10 cs

/-- The integer that the text of a scalar stands for. -/
def integerOf (s : String) : Except ValueFault Int := do
  let (negative, body) := takeSign (s.toList.filter (· ≠ '_'))
  let n ← unsignedInteger body
  return if negative then -n else n

/-! ## Floating point numbers -/

/-- The exponent at the end of a decimal. -/
def exponent? : List Char → Option Int
  | [] => some 0
  | 'e' :: cs =>
    let (negative, ds) := takeSign cs
    (digits? 10 ds).map fun n => if negative then -(n : Int) else n
  | _ => none

/-- The number that a decimal without sign stands for. -/
def decimal? (cs : List Char) : Option Binary64 := do
  let whole := cs.takeWhile Char.isDigit
  let rest := cs.drop whole.length
  let (part, rest) := match rest with
    | '.' :: r => (r.takeWhile Char.isDigit, r.dropWhile Char.isDigit)
    | r => ([], r)
  if whole.isEmpty && part.isEmpty then none
  let e ← exponent? rest
  return .ofDecimal (decimalValue (whole ++ part)) (e - part.length)

/-- The number that a text of small letters writes. -/
def readFloat? (cs : List Char) : Option Binary64 :=
  let (negative, body) := takeSign (trimNumber cs)
  let abs :=
    if ["inf".toList, "infinity".toList].contains body then some (.infinite false)
    else if body = "nan".toList then some .nan
    else decimal? body
  abs.map (·.withSign negative)

/-- The number written by counts of sixty of which the last has a fraction. The sum is taken from
the last count on and rounded at each step. -/
def floatSixties? (parts : List (List Char)) : Option Binary64 := do
  let counts ← parts.reverse.mapM readFloat?
  let (sum, _) := counts.foldl (fun (sum, base) x =>
    (Binary64.add sum (.mul x (.ofRatio base 1)), base * 60)) (Binary64.zero, 1)
  return sum

/-- The floating point number that the text of a scalar stands for. -/
def floatOf (s : String) : Except ValueFault Binary64 :=
  let cs := (s.toList.filter (· ≠ '_')).map Char.toLower
  let (negative, body) := takeSign cs
  let abs :=
    if body = ".inf".toList then some (.infinite false)
    else if body = ".nan".toList then some .nan
    else if body.contains ':' then floatSixties? (body.splitOn ':')
    else readFloat? body
  if cs.isEmpty then .error .emptyNumber
  else match abs with
    | some x => .ok (x.withSign negative)
    | none => .error .number

end ArchModel.Yaml
