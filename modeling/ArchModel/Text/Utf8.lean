import ArchModel.Text.Char

/-!
# Decoding UTF-8

`decodeUtf8` reads a sequence of bytes as UTF-8, or tells what is wrong and where. A fault covers
the bytes of a character that were in order before it; `Utf8Fault.message` words it.

`unifyLineBreaks` is the form in which text files are read: each carriage return, with the line
feed after it if there is one, becomes a line feed.
-/

namespace ArchModel.Text

/-- Why bytes are no UTF-8. -/
inductive Utf8Cause
  /-- No character starts with this byte. -/
  | start
  /-- A character is broken off by a byte that does not go on with it. -/
  | continuation
  /-- The bytes end within a character. -/
  | ended
  deriving DecidableEq, Repr

namespace Utf8Cause

/-- The wording of a cause. -/
def message : Utf8Cause → String
  | start => "invalid start byte"
  | continuation => "invalid continuation byte"
  | ended => "unexpected end of data"

end Utf8Cause

/-- The first fault of a sequence of bytes. -/
structure Utf8Fault where
  /-- The position of the first byte in question. -/
  position : Nat
  /-- The bytes in question. -/
  bytes : List Nat
  /-- What is wrong. -/
  cause : Utf8Cause
  deriving DecidableEq, Repr

namespace Utf8Fault

/-- The wording of a fault. -/
def message (f : Utf8Fault) : String :=
  let what := match f.bytes with
    | [b] => "byte 0x" ++ String.ofList (digitsPadded 16 2 b) ++ " in position " ++
        toString f.position
    | bs => "bytes in position " ++ toString f.position ++ "-" ++
        toString (f.position + bs.length - 1)
  "'utf-8' codec can't decode " ++ what ++ ": " ++ f.cause.message

end Utf8Fault

/-- The number of bytes of a character that starts with this byte, and the bits it contributes. -/
def leadByte? (b : Nat) : Option (Nat × Nat) :=
  if b < 0x80 then some (1, b)
  else if 0xc2 ≤ b ∧ b < 0xe0 then some (2, b - 0xc0)
  else if 0xe0 ≤ b ∧ b < 0xf0 then some (3, b - 0xe0)
  else if 0xf0 ≤ b ∧ b < 0xf5 then some (4, b - 0xf0)
  else none

/-- Whether `b` may be the second byte of a character that starts with `lead`: overlong forms,
surrogates and code points beyond the last are left out. -/
def isSecondByte (lead b : Nat) : Bool :=
  0x80 ≤ b && b < 0xc0 && !(lead == 0xe0 && b < 0xa0) && !(lead == 0xed && 0xa0 ≤ b) &&
    !(lead == 0xf0 && b < 0x90) && !(lead == 0xf4 && 0x90 ≤ b)

/-- Whether `b` goes on with a character of which some bytes were read. -/
def goesOn (lead : Nat) (got : List Nat) (b : Nat) : Bool :=
  if got.length = 1 then isSecondByte lead b else 0x80 ≤ b && b < 0xc0

/-- The bytes that go on with a character of which `got` were read: the value with `count` of them
added and the rest, or the bytes up to the fault. -/
def readTail (lead value : Nat) (got : List Nat) :
    Nat → List Nat → Except (List Nat × Utf8Cause) (Nat × List Nat)
  | 0, bs => .ok (value, bs)
  | _ + 1, [] => .error (got.reverse, .ended)
  | count + 1, b :: bs =>
    if goesOn lead got b then readTail lead (value * 64 + (b - 0x80)) (b :: got) count bs
    else .error (got.reverse, .continuation)

theorem length_readTail {lead value count : Nat} {got bs : List Nat} {v : Nat} {r : List Nat}
    (h : readTail lead value got count bs = .ok (v, r)) : r.length ≤ bs.length := by
  induction count generalizing value got bs with
  | zero => simp only [readTail, Except.ok.injEq, Prod.mk.injEq] at h; simp [h.2]
  | succ n ih =>
    cases bs with
    | nil => simp [readTail] at h
    | cons b bs =>
      simp only [readTail] at h
      split at h
      · exact Nat.le_succ_of_le (ih h)
      · simp at h

/-- The characters written by bytes from a position on. -/
def decodeFrom (position : Nat) (bytes : List Nat) : Except Utf8Fault (List Char) :=
  match bytes with
  | [] => .ok []
  | b :: bs =>
    match leadByte? b with
    | none => .error ⟨position, [b], .start⟩
    | some (width, value) =>
      match _h : readTail b value [b] (width - 1) bs with
      | .error (got, cause) => .error ⟨position, got, cause⟩
      | .ok (n, rest) => do
        let cs ← decodeFrom (position + width) rest
        return Char.ofNat n :: cs
  termination_by bytes.length
  decreasing_by have := length_readTail _h; simp; omega

/-- The text written by bytes. -/
def decodeUtf8 (bytes : List Nat) : Except Utf8Fault (List Char) := decodeFrom 0 bytes

/-- The characters with each carriage return, and the line feed after it, as a line feed. -/
def unifyLineBreaks : List Char → List Char
  | [] => []
  | '\r' :: '\n' :: cs => '\n' :: unifyLineBreaks cs
  | '\r' :: cs => '\n' :: unifyLineBreaks cs
  | c :: cs => c :: unifyLineBreaks cs

end ArchModel.Text
