import Exemplar.Decimal.Numeral
import Exemplar.Raised
import Exemplar.Source.Utf8

/-
  Bytes written with an alphabet of 64 characters, four of which stand for three bytes. Reading
  passes over characters that are no part of the alphabet, and stops where padding completes four.

  Values packed as bytes, as code is sent to a worker: a letter for the type, and behind it a size
  with the parts, or the bytes of the value. A letter with its highest bit set asks for the value to
  be kept, and later ones may refer to it by its number. Of a value only that is kept which decides
  whether it can be run: texts and bytes can, and code.
-/

namespace Exemplar.Base64

def alphabet : List Char :=
  "ABCDEFGHIJKLMNOPQRSTUVWXYZabcdefghijklmnopqrstuvwxyz0123456789+/".toList

/-- What has been read: the bytes from the last to the first, how many characters of the current
four have come, the bits of them that make no byte yet, and the padding behind them. -/
structure Progress where
  bytes : List UInt8 := []
  place : Nat := 0
  rest : Nat := 0
  pads : Nat := 0

/-- Adds the value of a character. -/
def Progress.add (p : Progress) (d : Nat) : Progress :=
  let byte (n : Nat) : List UInt8 := UInt8.ofNat n :: p.bytes
  match p.place with
  | 0 => { p with place := 1, rest := d, pads := 0 }
  | 1 => { bytes := byte (p.rest * 4 + d / 16), place := 2, rest := d % 16 }
  | 2 => { bytes := byte (p.rest * 16 + d / 4), place := 3, rest := d % 4 }
  | _ => { bytes := byte (p.rest * 64 + d) }

/-- Why characters do not complete a last four. -/
def incomplete (p : Progress) : Raised :=
  if p.place == 1 then
    ⟨"Error", "Invalid base64-encoded string: number of data characters (" ++
      toString (p.bytes.length / 3 * 4 + 1) ++ ") cannot be 1 more than a multiple of 4"⟩
  else ⟨"Error", "Incorrect padding"⟩

def decodeFrom (p : Progress) : List Char → Except Raised (List UInt8)
  | [] => if p.place == 0 then .ok p.bytes.reverse else .error (incomplete p)
  | c :: cs =>
    if c == '=' then
      if p.place < 2 then decodeFrom p cs
      else if 4 ≤ p.place + p.pads + 1 then .ok p.bytes.reverse
      else decodeFrom { p with pads := p.pads + 1 } cs
    else match alphabet.idxOf? c with
    | some d => decodeFrom (p.add d) cs
    | none => decodeFrom p cs

/-- The bytes that a text stands for. -/
def decode (cs : List Char) : Except Raised (List UInt8) := decodeFrom {} cs

end Exemplar.Base64

namespace Exemplar

/-- A value that was packed. -/
inductive Packed
  | text (s : List Char)
  /-- A text that holds halves of pairs, which no bytes stand for: the place of the first, how many
  follow each other, and its number. -/
  | broken (place count half : Nat)
  | bytes (b : List UInt8)
  | code
  /-- Anything else, with the word for its type if it cannot be a key. -/
  | other (unhashable? : Option String)
  deriving Inhabited

namespace Packed

/-- What is left of the bytes, the values that are kept, and how many values are around the one at
hand. A place may be taken before its value is complete. -/
structure Progress where
  rest : List UInt8
  kept : Array (Option Packed) := #[]
  depth : Nat := 0

abbrev Reader := StateT Progress (Except Raised)

def tooShort : Raised := ⟨"EOFError", "marshal data too short"⟩

def badData (what : String) : Raised := .valueError ("bad marshal data (" ++ what ++ ")")

def take (n : Nat) : Reader (List UInt8) := do
  let p ← get
  if p.rest.length < n then throw tooShort
  set { p with rest := p.rest.drop n }
  return p.rest.take n

/-- One byte, where bytes of a value are expected. -/
def byte : Reader Nat := do
  match (← get).rest with
  | [] => throw ⟨"EOFError", "EOF read where data expected"⟩
  | b :: r =>
    modify fun p => { p with rest := r }
    return b.toNat

/-- How many values may be around a value. -/
def maxDepth : Nat := 2000

/-- Goes into a value. -/
def enter : Reader Unit := do
  let p ← get
  if maxDepth ≤ p.depth then throw (.valueError "recursion limit exceeded")
  set { p with depth := p.depth + 1 }

def leave : Reader Unit := modify fun p => { p with depth := p.depth - 1 }

/-- The natural number that bytes stand for, the least significant first. -/
def natural (bs : List UInt8) : Nat := bs.foldr (fun b n => b.toNat + 256 * n) 0

/-- A number in four bytes, which is negative if its highest bit is set. -/
def long : Reader Int := do
  let n := natural (← take 4)
  return if n < Nat.pow 2 31 then n else (n : Int) - Nat.pow 2 32

/-- A size; `what` is out of range if it is negative. -/
def size (what : String) : Reader Nat := do
  let n ← long
  if n < 0 then throw (badData (what ++ " size out of range"))
  return n.toNat

/-- Keeps a value if that is asked for. -/
def keep (kept : Bool) (v : Packed) : Reader Packed := do
  if kept then modify fun p => { p with kept := p.kept.push (some v) }
  return v

/-- Takes a place for a value that is not there yet. -/
def reserve (kept : Bool) : Reader Nat := do
  let n := (← get).kept.size
  if kept then modify fun p => { p with kept := p.kept.push none }
  return n

/-- Puts a value in its place. -/
def fill (kept : Bool) (n : Nat) (v : Packed) : Reader Packed := do
  if kept then modify fun p => { p with kept := p.kept.setIfInBounds n (some v) }
  return v

/-- Digits of fifteen bits each, of which the last may not be zero. -/
def digits : Nat → Reader Unit
  | 0 => return ()
  | n + 1 => do
    let d := natural (← take 2)
    if Nat.pow 2 15 ≤ d then throw (badData "digit out of range in long")
    if d == 0 && n == 0 then throw (badData "unnormalized long data")
    digits n

def plain : Packed := .other none

/-- The text of bytes of one character each. -/
def oneByteText (bs : List UInt8) : Packed := .text (bs.map fun b => Char.ofNat b.toNat)

/-- The half of a pair that stands at the front of bytes. -/
def half? : List UInt8 → Option Nat
  | a :: b :: c :: _ =>
    if a == 0xed && 0xa0 ≤ b && b ≤ 0xbf && 0x80 ≤ c && c ≤ 0xbf then
      some (0xd000 + (b.toNat - 0x80) * 64 + (c.toNat - 0x80))
    else none
  | _ => none

/-- How many halves of pairs follow each other. -/
def halves : Nat → List UInt8 → Nat
  | 0, _ => 0
  | fuel + 1, bs => if (half? bs).isSome then halves fuel (bs.drop 3) + 1 else 0

/-- The text of bytes in UTF-8, in which halves of pairs may stand alone. -/
def utf8Text (bs : List UInt8) : Reader Packed :=
  let refuse (f : Utf8.Failure) : Reader Packed := throw ⟨"UnicodeDecodeError", f.message⟩
  let rec mended : Nat → List UInt8 → Except Utf8.Failure Unit
    | 0, _ => .ok ()
    | fuel + 1, bs =>
      match Utf8.decode bs with
      | .ok _ => .ok ()
      | .error f =>
        if (half? (bs.drop f.start)).isSome then
          mended fuel (bs.take f.start ++ [63, 63, 63] ++ bs.drop (f.start + 3))
        else .error f
  match Utf8.decode bs with
  | .ok cs => return .text cs
  | .error f =>
    match half? (bs.drop f.start), mended bs.length bs with
    | some n, .ok () =>
      let place := match Utf8.decode (bs.take f.start) with
        | .ok cs => cs.length
        | .error _ => f.start
      return .broken place (halves bs.length (bs.drop f.start)) n
    | _, .error f => refuse f
    | none, _ => refuse f

/-- Checks that bytes write a double. -/
def checkDouble (bs : List UInt8) : Reader Unit := do
  let cs := (bs.map fun b => Char.ofNat b.toNat).takeWhile (· != '\x00')
  let (negative, body) := Numeral.splitSign cs
  let isWord := ["inf", "infinity", "nan"].contains (String.ofList (body.map Char.toLower))
  if !isWord && (Numeral.readDecimal? negative body).isNone then
    throw (.valueError ("could not convert string to float: '" ++ String.ofList cs ++ "'"))

/-- A missing value where one is needed. -/
def needed (what : String) : Option Packed → Reader Packed
  | some v => return v
  | none => throw (.typeError ("NULL object in marshal data for " ++ what))

/-- The word for the type of a value that cannot be a key. -/
def unhashable? : Packed → Option String
  | .other w => w
  | _ => none

def refuseKey (v : Packed) : Reader Unit :=
  match v.unhashable? with
  | some w => throw (.typeError ("unhashable type: '" ++ w ++ "'"))
  | none => return ()

mutual

/-- One value, or the mark for none. The count of bytes bounds the calls. -/
def value : Nat → Reader (Option Packed)
  | 0 => throw tooShort
  | fuel + 1 => do
    if (← get).rest.isEmpty then throw ⟨"EOFError", "EOF read where object expected"⟩
    let letter ← byte
    let kept := 128 ≤ letter
    enter
    let found : Option Packed ← match Char.ofNat (letter % 128) with
      | '0' => pure none
      | 'N' | 'S' | '.' | 'F' | 'T' => pure (some plain)
      | 'i' => do
        discard long
        some <$> keep kept plain
      | 'I' => do
        discard (take 8)
        some <$> keep kept plain
      | 'l' => do
        let n ← long
        if n.natAbs == Nat.pow 2 31 then throw (badData "long size out of range")
        digits n.natAbs
        some <$> keep kept plain
      | 'f' => do
        checkDouble (← take (← byte))
        some <$> keep kept plain
      | 'g' => do
        discard (take 8)
        some <$> keep kept plain
      | 'x' => do
        checkDouble (← take (← byte))
        checkDouble (← take (← byte))
        some <$> keep kept plain
      | 'y' => do
        discard (take 16)
        some <$> keep kept plain
      | 's' => do some <$> keep kept (.bytes (← take (← size "bytes object")))
      | 'a' | 'A' => do some <$> keep kept (oneByteText (← take (← size "string")))
      | 'z' | 'Z' => do some <$> keep kept (oneByteText (← take (← byte)))
      | 'u' | 't' => do some <$> keep kept (← utf8Text (← take (← size "string")))
      | ')' => do some <$> tuple fuel kept (← byte)
      | '(' => do some <$> tuple fuel kept (← size "tuple")
      | '[' => do
        let n ← size "list"
        let v ← keep kept (.other (some "list"))
        discard (items fuel "list" n)
        pure (some v)
      | '\x7b' => do
        let v ← keep kept (.other (some "dict"))
        entries fuel fuel
        pure (some v)
      | '<' => do
        let n ← size "set"
        let v ← keep kept (.other (some "set"))
        (← items fuel "set" n).forM refuseKey
        pure (some v)
      | '>' => do
        let n ← size "set"
        let place ← reserve kept
        (← items fuel "set" n).forM refuseKey
        some <$> fill kept place plain
      | 'c' => do
        let place ← reserve kept
        discard (take 20)
        discard (items fuel "code object" 8)
        discard long
        discard (items fuel "code object" 2)
        some <$> fill kept place .code
      | 'r' => do
        let n ← long
        match (← get).kept[n.toNat]? with
        | some (some v) => if n < 0 then throw (badData "invalid reference") else pure (some v)
        | _ => throw (badData "invalid reference")
      | _ => throw (badData "unknown type code")
    leave
    return found

/-- Values one after the other. -/
def items (fuel : Nat) (what : String) (n : Nat) : Reader (List Packed) :=
  match fuel, n with
  | _, 0 => return []
  | 0, _ => throw tooShort
  | fuel + 1, n + 1 => do
    let v ← needed what (← value fuel)
    return v :: (← items fuel what n)

def tuple (fuel : Nat) (kept : Bool) (n : Nat) : Reader Packed :=
  match fuel with
  | 0 => throw tooShort
  | fuel + 1 => do
    let place ← reserve kept
    let vs ← items fuel "tuple" n
    fill kept place (.other (vs.findSome? unhashable?))

/-- Keys with their values up to the mark for none. -/
def entries (fuel left : Nat) : Reader Unit :=
  match fuel, left with
  | 0, _ | _, 0 => throw tooShort
  | fuel + 1, left + 1 => do
    match ← value fuel with
    | none => return ()
    | some k =>
      match ← value fuel with
      | none => return ()
      | some _ =>
        refuseKey k
        entries fuel left

end

/-- The value that bytes hold; what stands behind it does not matter. -/
def read (bytes : List UInt8) : Except Raised Packed := do
  let (v, p) ← (value (2 * bytes.length + 2)).run { rest := bytes }
  let (v, _) ← (needed "object" v).run p
  return v

end Packed

end Exemplar
