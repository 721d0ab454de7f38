/-
  Reading bytes as UTF-8. A failure says which bytes are at fault and why.
-/

namespace Exemplar.Utf8

/-- Why bytes are no text. -/
inductive Cause
  | invalidStart | invalidContinuation | unexpectedEnd
  deriving DecidableEq

def Cause.message : Cause → String
  | .invalidStart => "invalid start byte"
  | .invalidContinuation => "invalid continuation byte"
  | .unexpectedEnd => "unexpected end of data"

/-- The bytes at fault: where they start, the first of them, and how many. -/
structure Failure where
  cause : Cause
  start : Nat
  first : UInt8
  count : Nat
  deriving DecidableEq

def hexPair (n : Nat) : String :=
  let d := fun k => if k < 10 then Char.ofNat (48 + k) else Char.ofNat (87 + k)
  String.ofList [d (n / 16 % 16), d (n % 16)]

def Failure.message (f : Failure) : String :=
  "'utf-8' codec can't decode " ++
    (if f.count == 1 then
      "byte 0x" ++ hexPair f.first.toNat ++ " in position " ++ toString f.start
    else
      "bytes in position " ++ toString f.start ++ "-" ++ toString (f.start + f.count - 1)) ++
    ": " ++ f.cause.message

/-- The bounds of the second byte and the count of further bytes after a first byte. -/
def expected? (b : Nat) : Option (Nat × Nat × Nat) :=
  if 0xc2 ≤ b && b < 0xe0 then some (0x80, 0xbf, 1)
  else if b == 0xe0 then some (0xa0, 0xbf, 2)
  else if b == 0xed then some (0x80, 0x9f, 2)
  else if 0xe1 ≤ b && b < 0xf0 then some (0x80, 0xbf, 2)
  else if b == 0xf0 then some (0x90, 0xbf, 3)
  else if 0xf1 ≤ b && b < 0xf4 then some (0x80, 0xbf, 3)
  else if b == 0xf4 then some (0x80, 0x8f, 3)
  else none

/-- Takes continuation bytes, the next within `[low, high]`; answers the value and the rest, or the
cause and how many bytes were taken. -/
def takeContinuation (low high : Nat) :
    Nat → Nat → Nat → List UInt8 → Except (Cause × Nat) (Nat × List UInt8)
  | 0, value, _, rest => .ok (value, rest)
  | k + 1, value, taken, rest =>
    match rest with
    | [] => .error (.unexpectedEnd, taken)
    | b :: r =>
      if low ≤ b.toNat && b.toNat ≤ high then
        takeContinuation 0x80 0xbf k (value * 64 + b.toNat % 64) (taken + 1) r
      else .error (.invalidContinuation, taken)

/-- Decodes from the byte at offset `start` on; each step takes at least one byte, so that the
count of bytes bounds the steps. -/
def decodeFrom : Nat → Nat → List UInt8 → Except Failure (List Char)
  | 0, _, _ => .ok []
  | _ + 1, _, [] => .ok []
  | fuel + 1, start, b :: r =>
    let n := b.toNat
    if n < 0x80 then do
      let cs ← decodeFrom fuel (start + 1) r
      pure (Char.ofNat n :: cs)
    else
      match expected? n with
      | none => .error ⟨.invalidStart, start, b, 1⟩
      | some (low, high, k) =>
        let lead := if k == 1 then n % 32 else if k == 2 then n % 16 else n % 8
        match takeContinuation low high k lead 1 r with
        | .error (cause, taken) => .error ⟨cause, start, b, taken⟩
        | .ok (value, rest) => do
          let cs ← decodeFrom fuel (start + k + 1) rest
          pure (Char.ofNat value :: cs)

/-- The text that bytes encode. -/
def decode (bytes : List UInt8) : Except Failure (List Char) := decodeFrom bytes.length 0 bytes

end Exemplar.Utf8
