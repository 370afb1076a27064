/-!
# Binary floating point numbers

`Binary64` is a floating point number of 53 bits of precision as a value of its own: a sign, a
mantissa and a power of two. All arithmetic on it is exact arithmetic on natural numbers followed
by one rounding.

* `Binary64.ofRatio` is the number nearest to a quotient, the even one of two that are equally near.
* `Binary64.ofDecimal` is the number nearest to a decimal.
* `Binary64.mul` and `Binary64.add` round the exact product and sum.
-/

namespace ArchModel

/-- A floating point number of double precision. -/
inductive Binary64
  /-- The number `mantissa * 2 ^ exponent`, or its negative. -/
  | finite (negative : Bool) (mantissa : Nat) (exponent : Int)
  | infinite (negative : Bool)
  | nan
  deriving DecidableEq, Repr, Inhabited

namespace Binary64

/-- The least exponent of a finite number. -/
def minExponent : Int := -1074

/-- The greatest exponent of a finite number. -/
def maxExponent : Int := 971

/-- The least mantissa of full precision. -/
def leastFull : Nat := Nat.pow 2 52

/-- Zero. -/
def zero : Binary64 := finite false 0 minExponent

/-- A power of a base as a quotient. -/
def powRatio (base : Nat) (e : Int) : Nat × Nat :=
  if 0 ≤ e then (base.pow e.toNat, 1) else (1, base.pow (-e).toNat)

/-- The quotient rounded to the nearest natural number, a tie going to the even one. -/
def divNearest (num den : Nat) : Nat :=
  let q := num / den
  let r := num % den
  if 2 * r < den then q else if den < 2 * r then q + 1 else q + q % 2

/-- The greatest `l` with `2 ^ l ≤ num / den`, for a positive quotient. -/
def log2Ratio (num den : Nat) : Int :=
  let l : Int := (num.log2 : Int) - den.log2
  let (a, b) := powRatio 2 l
  if den * a ≤ num * b then l else l - 1

/-- The number nearest to `num / den`. -/
def ofRatio (num den : Nat) : Binary64 :=
  if num = 0 then zero
  else
    let e := max minExponent (log2Ratio num den - 52)
    let (a, b) := powRatio 2 e
    let m := divNearest (num * b) (den * a)
    let (m, e) := if m = 2 * leastFull then (leastFull, e + 1) else (m, e)
    if maxExponent < e then infinite false else finite false m e

/-- The number nearest to `digits * 10 ^ e`. Decimals beyond the range on either side are told by
the place of their first digit. -/
def ofDecimal (digits : Nat) (e : Int) : Binary64 :=
  let places := e + (Nat.toDigits 10 digits).length
  if digits = 0 ∨ places < -400 then zero
  else if 400 < places then infinite false
  else
    let (a, b) := powRatio 10 e
    ofRatio (digits * a) b

/-- The absolute value of a finite number as a quotient. -/
def absRatio : Binary64 → Nat × Nat
  | finite _ m e => let (a, b) := powRatio 2 e; (m * a, b)
  | _ => (0, 1)

/-- The number with its sign turned. -/
def neg : Binary64 → Binary64
  | finite s m e => finite (!s) m e
  | infinite s => infinite (!s)
  | nan => nan

/-- Whether a number has the sign of the negative ones. -/
def isNegative : Binary64 → Bool
  | finite s _ _ => s
  | infinite s => s
  | nan => false

/-- The number or its negative. -/
def withSign (negative : Bool) (x : Binary64) : Binary64 := if negative then x.neg else x

/-- The rounded product. -/
def mul (x y : Binary64) : Binary64 :=
  let negative := x.isNegative != y.isNegative
  match x, y with
  | finite _ m _, finite _ n _ =>
    let (a, b) := x.absRatio
    let (c, d) := y.absRatio
    withSign negative (if m = 0 ∨ n = 0 then zero else ofRatio (a * c) (b * d))
  | nan, _ | _, nan => nan
  | finite _ m _, infinite _ | infinite _, finite _ m _ => if m = 0 then nan else infinite negative
  | infinite _, infinite _ => infinite negative

/-- The rounded sum. Zero is positive unless both summands are negative. -/
def add (x y : Binary64) : Binary64 :=
  match x, y with
  | finite .., finite .. =>
    let (a, b) := x.absRatio
    let (c, d) := y.absRatio
    let signed := fun (negative : Bool) (n : Nat) => if negative then -(n : Int) else n
    let sum := signed x.isNegative (a * d) + signed y.isNegative (c * b)
    withSign (decide (sum < 0) || (sum == 0 && x.isNegative && y.isNegative))
      (ofRatio sum.natAbs (b * d))
  | nan, _ | _, nan => nan
  | infinite s, infinite t => if s = t then infinite s else nan
  | infinite s, _ | _, infinite s => infinite s

/-- The integer that a number equals, if it is one. -/
def toInt? : Binary64 → Option Int
  | finite s m e =>
    let (a, b) := powRatio 2 e
    if m * a % b = 0 then some (if s then -((m * a / b : Nat) : Int) else ((m * a / b : Nat) : Int))
    else none
  | _ => none

end Binary64

end ArchModel
