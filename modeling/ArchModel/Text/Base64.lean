import ArchModel.Text.Char

/-!
# Bytes written in base 64

Four letters of an alphabet of sixty-four write three bytes. Equals signs fill up the last four;
what stands behind them says nothing, and neither do characters outside the alphabet.

* `decodeBase64?` reads the bytes; nothing if the last four are not full.
-/

namespace ArchModel.Text

/-- The letters, in the order of their values. -/
def base64Letters : List Char :=
  "ABCDEFGHIJKLMNOPQRSTUVWXYZabcdefghijklmnopqrstuvwxyz0123456789+/".toList

/-- The value of a letter. -/
def base64Value? (c : Char) : Option Nat := base64Letters.idxOf? c

/-- The bytes that up to four values write; a byte needs eight bits. -/
def bytesOfValues : List Nat → List Nat
  | [a, b] => [a * 4 + b / 16]
  | [a, b, c] => [a * 4 + b / 16, b % 16 * 16 + c / 4]
  | [a, b, c, d] => [a * 4 + b / 16, b % 16 * 16 + c / 4, c % 4 * 64 + d]
  | _ => []

/-- The state of reading. -/
structure Base64Reader where
  /-- The bytes so far, last one first. -/
  bytes : List Nat := []
  /-- The values since the last four. -/
  values : List Nat := []
  /-- The number of equals signs behind them. -/
  signs : Nat := 0
  /-- Whether the end was reached. -/
  done : Bool := false
  deriving Repr

namespace Base64Reader

/-- Pass a character. -/
def step (r : Base64Reader) (c : Char) : Base64Reader :=
  if r.done then r
  else if c = '=' then
    if r.values.length < 2 then r
    else if 4 ≤ r.values.length + r.signs + 1 then { r with done := true }
    else { r with signs := r.signs + 1 }
  else match base64Value? c with
    | none => r
    | some v =>
      let values := r.values ++ [v]
      if values.length = 4 then
        { r with bytes := (bytesOfValues values).reverse ++ r.bytes, values := [], signs := 0 }
      else { r with values, signs := 0 }

end Base64Reader

/-- The bytes that a text writes. -/
def decodeBase64? (cs : List Char) : Option (List Nat) :=
  let r := cs.foldl Base64Reader.step {}
  if r.done ∨ r.values = [] then some (r.bytes.reverse ++ bytesOfValues r.values) else none

end ArchModel.Text
