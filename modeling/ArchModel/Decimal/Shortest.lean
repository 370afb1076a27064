import ArchModel.Decimal.Binary64
import ArchModel.Text.Char

/-!
# The shortest decimal of a floating point number

`Binary64.shortest` gives the fewest digits that read back as the number, and of these the nearest.
The decimals that read back are those in an interval around the number, with its ends when the
mantissa is even; a grid of decimals has one in it exactly when one of the number's two neighbours
on the grid is in it, so only these are looked at, on coarser grids first.

`Binary64.text` writes the number: positionally when its first digit is neither below the fourth
place after the point nor above the sixteenth before it, and by mantissa and exponent otherwise.
-/

namespace ArchModel.Binary64

open Text

/-- Whether `a / b < c / d`. -/
def ratioLt (x y : Nat × Nat) : Bool := x.1 * y.2 < y.1 * x.2

/-- The interval of the decimals that read back as `m * 2 ^ e`: its ends, and whether these belong
to it. -/
def interval (m : Nat) (e : Int) : (Nat × Nat) × (Nat × Nat) × Bool :=
  let (a, b) := powRatio 2 (e - 2)
  let below := if m = leastFull ∧ minExponent < e then 4 * m - 1 else 4 * m - 2
  ((below * a, b), ((4 * m + 2) * a, b), m % 2 == 0)

/-- Whether a decimal reads back as `m * 2 ^ e`. -/
def readsBack (m : Nat) (e : Int) (digits : Nat) (p : Int) : Bool :=
  let (a, b) := powRatio 10 p
  let x := (digits * a, b)
  let (lo, hi, closed) := interval m e
  if closed then !ratioLt x lo && !ratioLt hi x else ratioLt lo x && ratioLt x hi

/-- The position of the first digit of a positive quotient: `10 ^ l` is at most the quotient, and
`10 ^ (l + 1)` is above it. -/
def log10Ratio (num den : Nat) : Int :=
  let l := (log2Ratio num den * 30103).fdiv 100000
  let atMost := fun l : Int => let (a, b) := powRatio 10 l; decide (den * a ≤ num * b)
  if atMost (l + 1) then l + 1 else if atMost l then l else l - 1

/-- The decimal of a grid that reads back as `m * 2 ^ e`, the nearer if there are two. -/
def onGrid (m : Nat) (e : Int) (num den : Nat) (p : Int) : Option Nat :=
  let (a, b) := powRatio 10 p
  let low := num * b / (den * a)
  let nearest := divNearest (num * b) (den * a)
  let other := if nearest = low then low + 1 else low
  if readsBack m e nearest p then some nearest
  else if readsBack m e other p then some other
  else none

/-- The fewest digits that read back as `m * 2 ^ e`, and the power of ten they count. -/
def shortest (m : Nat) (e : Int) : Nat × Int :=
  if m = 0 then (0, 0)
  else
    let (num, den) := absRatio (finite false m e)
    let first := log10Ratio num den
    let grids := (List.range 17).map fun (n : Nat) => first - (n : Int)
    match grids.findSome? fun p => (onGrid m e num den p).map fun d => (d, p) with
    | some r => r
    | none => (num / den, 0)

/-- The digits of a number without the zeros at their end, and how many these are. -/
def significant (d : Nat) : List Char × Nat :=
  let ds := Nat.toDigits 10 d
  let kept := (ds.reverse.dropWhile (· = '0')).reverse
  if kept.isEmpty then (['0'], 0) else (kept, ds.length - kept.length)

/-- A decimal with the point in its place. The first digit stands at `first`, counted from the
point. -/
def positional (ds : List Char) (first : Int) : List Char :=
  if first < 0 then '0' :: '.' :: List.replicate (-first - 1).toNat '0' ++ ds
  else
    let n := first.toNat + 1
    let whole := ds.take n ++ List.replicate (n - ds.length) '0'
    let part := ds.drop n
    whole ++ '.' :: if part.isEmpty then ['0'] else part

/-- A decimal as a mantissa with one digit before the point and an exponent of two digits at
least. -/
def scientific (ds : List Char) (first : Int) : List Char :=
  let mantissa := match ds with
    | d :: (c :: cs) => d :: '.' :: c :: cs
    | ds => ds
  mantissa ++ 'e' :: (if first < 0 then '-' else '+') :: digitsPadded 10 2 first.natAbs

/-- The text of a number. -/
def text : Binary64 → String
  | nan => "nan"
  | infinite s => if s then "-inf" else "inf"
  | finite s m e =>
    let (d, p) := shortest m e
    let (ds, zeros) := significant d
    let first : Int := if m = 0 then 0 else p + zeros + ds.length - 1
    let body := if -4 ≤ first ∧ first < 16 then positional ds first else scientific ds first
    String.ofList (if s then '-' :: body else body)

end ArchModel.Binary64
