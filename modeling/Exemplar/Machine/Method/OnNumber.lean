import Exemplar.Machine.Mathematics
import Exemplar.Machine.Method.OnBytes
import Exemplar.Text.Lines

/-
  Methods of integers, doubles and complex numbers.
-/

namespace Exemplar.Machine.Method.OnNumber

/-- Which end of a number comes first in bytes. -/
def isBigEnd (p : Passed) (v? : Option Value) : Exec Bool := do
  match v? with
  | none => pure true
  | some v =>
    match ← p.text "argument 'byteorder'" v with
    | "big" => pure true
    | "little" => pure false
    | _ => Exec.valueError "byteorder must be either 'little' or 'big'"

def isSigned (e : Engine) (v? : Option Value) : Exec Bool := do
  match v? with
  | none => pure false
  | some v => Measure.truth e v

/-- An integer as so many bytes. -/
def toBytes (e : Engine) (n : Int) (p : Passed) : Exec Value := do
  let given ← p.fill ["length", "byteorder", "signed"] 0 2
  let size ← sizeOr e 1 (given.getD 0 none)
  let bigEnd ← isBigEnd p (given.getD 1 none)
  let signed ← isSigned e (given.getD 2 none)
  if size < 0 then Exec.valueError "length argument must be non-negative"
  if n < 0 && !signed then Exec.overflow "can't convert negative int to unsigned"
  let bits := 8 * size.toNat
  let fits := if signed then
      -(Nat.pow 2 bits : Int) ≤ 2 * n && 2 * n < (Nat.pow 2 bits : Int) || (n == 0)
    else n < (Nat.pow 2 bits : Int)
  if !fits then Exec.overflow "int too big to convert"
  let whole := (n.emod (Nat.pow 2 bits : Int)).toNat
  pure (.bytes (Codec.unitBytes size.toNat bigEnd whole))

/-- The bytes that a value stands for. -/
def bytesOf (e : Engine) (v : Value) : Exec (List UInt8) := do
  match ← Compare.bytes? v with
  | some b => pure b
  | none =>
    let isText := match v with
      | .str _ => true
      | _ => false
    match ← if isText then pure none else Iterate.iter? e v with
    | none => Exec.typeError ("cannot convert '" ++ (← Typing.word v) ++ "' object to bytes")
    | some _ => (← Iterate.collect e v).mapM (Item.byteOf e "bytes")

/-- The integer that bytes stand for. -/
def fromBytes (e : Engine) (cls : Value) (p : Passed) : Exec Value := do
  let given ← p.fill ["bytes", "byteorder", "signed"] 1 2
  let bigEnd ← isBigEnd p (given.getD 1 none)
  let signed ← isSigned e (given.getD 2 none)
  let b ← bytesOf e ((given.getD 0 none).getD .none)
  let n : Int := Codec.unitOf bigEnd b
  let half : Int := Nat.pow 2 (8 * b.length)
  let n := if signed && half ≤ 2 * n && !b.isEmpty then n - half else n
  match cls with
  | .kind .int => pure (.int n)
  | cls => e.call cls [.int n] []

/-- Calls a method of an integer. -/
def onInt (e : Engine) (n : Int) (p : Passed) : Exec Value := do
  match p.short with
  | "to_bytes" => toBytes e n p
  | "__round__" =>
    p.between 0 1
    return (← Rounding.plainly? e (.int n) (p.arg? 0)).getD (.int n)
  | "__format__" => formatted e (.int n) p
  | _ =>
  p.nothing
  match p.short with
  | "bit_length" => pure (.int (if n == 0 then 0 else n.natAbs.log2 + 1))
  | "bit_count" => pure (.int ((Nat.toDigits 2 n.natAbs).count '1'))
  | "as_integer_ratio" => pure (.pair (.int n) (.int 1))
  | "conjugate" | "__trunc__" | "__floor__" | "__ceil__" => pure (.int n)
  | "__getnewargs__" => pure (.tuple [.int n])
  | "__sizeof__" => pure (.int (24 + 4 * (if n == 0 then 0 else n.natAbs.log2 / 30 + 1)))
  | _ => unsupported p.full
where
  formatted (e : Engine) (v : Value) (p : Passed) : Exec Value := do
    return .str (← Format.value e v (← p.text "argument" (← p.one)))

/-- A double in hexadecimal digits. -/
def hexText (x : Binary64) : String :=
  if x.isNaN then "nan"
  else
    let sign := if x.negative then "-" else ""
    if x.isInfinite then sign ++ "inf"
    else if x.isZero then sign ++ "0x0.0p+0"
    else
      let lead := if x.exponentField == 0 then "0" else "1"
      let power := (Nat.max x.exponentField 1 : Int) - 1023
      sign ++ "0x" ++ lead ++ "." ++ String.ofList (Codec.hexDigits 13 x.fraction) ++ "p" ++
        (if power < 0 then "-" else "+") ++ toString power.natAbs

/-- Words for doubles that are not finite. -/
def special? (s : List Char) : Option Binary64 :=
  match String.ofList (s.map Char.toLower) with
  | "inf" | "infinity" => some (.infinity false)
  | "nan" => some .nan
  | _ => none

/-- The double that hexadecimal digits stand for. -/
def readHex? (s : List Char) : Option Binary64 := do
  let (negative, s) := Numeral.splitSign (Text.trim s)
  match special? s with
  | some x => some (if negative then x.neg else x)
  | none =>
    let s := match s with
      | '0' :: 'x' :: r | '0' :: 'X' :: r => r
      | s => s
    let isHex (c : Char) : Bool := (OnBytes.hexValue? c).isSome
    let whole := s.takeWhile isHex
    let r := s.drop whole.length
    let (places, r) := match r with
      | '.' :: r => (r.takeWhile isHex, r.drop (r.takeWhile isHex).length)
      | r => ([], r)
    if whole.isEmpty && places.isEmpty then none
    else
      let power ← match r with
        | [] => some 0
        | c :: r =>
          if c == 'p' || c == 'P' then
            if (r.dropWhile fun c => c == '+' || c == '-').all (·.isDigit) then
              Numeral.readInt? r
            else none
          else none
      let m := (whole ++ places).foldl (fun n c => 16 * n + (OnBytes.hexValue? c).getD 0) 0
      let power : Int := power - 4 * places.length
      if m == 0 then some (if negative then Binary64.zero.neg else .zero)
      else if 5000 < power + m.log2 then some (.infinity negative)
      else if power + m.log2 < -5000 then some (if negative then Binary64.zero.neg else .zero)
      else
        match power with
        | .ofNat k => some (Binary64.ofRatio negative (m * Nat.pow 2 k) 1)
        | .negSucc k => some (Binary64.ofRatio negative m (Nat.pow 2 (k + 1)))

def fromHex (e : Engine) (cls : Value) (p : Passed) : Exec Value := do
  let v ← p.one
  match ← Typing.unboxed v with
  | .str s =>
    match readHex? s.toList with
    | none => Exec.valueError "invalid hexadecimal floating-point string"
    | some x =>
      if x.isInfinite && (s.toList.any (·.isDigit)) then
        Exec.overflow "hexadecimal value too large to represent as a float"
      let x ← Exec.float x
      match cls with
      | .kind .float => pure x
      | cls => e.call cls [x] []
  | _ => Exec.typeError "bad argument type for built-in operation"

/-- Calls a method of a double. -/
def onFloat (e : Engine) (v : Value) (x : Binary64) (p : Passed) : Exec Value := do
  match p.short with
  | "__round__" =>
    p.between 0 1
    return (← Rounding.plainly? e v (p.arg? 0)).getD v
  | "__format__" => onInt.formatted e v p
  | _ =>
  p.nothing
  match p.short with
  | "is_integer" => pure (.bool x.isInteger)
  | "as_integer_ratio" =>
    if x.isNaN then Exec.valueError "cannot convert NaN to integer ratio"
    if x.isInfinite then Exec.overflow "cannot convert Infinity to integer ratio"
    let (m, d) := x.ratio
    let g := max 1 (Nat.gcd m.natAbs d)
    pure (.pair (.int (m / g)) (.int (d / g)))
  | "hex" => pure (.str (hexText x))
  | "conjugate" => pure v
  | "__trunc__" => return .int (← Exec.ofExcept (Rounding.whole Binary64.truncate x))
  | "__floor__" => return .int (← Exec.ofExcept (Rounding.whole Binary64.floor x))
  | "__ceil__" => return .int (← Exec.ofExcept (Rounding.whole Binary64.ceil x))
  | "__getnewargs__" => pure (.tuple [v])
  | _ => unsupported p.full

/-- Calls a method of a complex number. -/
def onComplex (e : Engine) (re im : Binary64) (p : Passed) : Exec Value := do
  match p.short with
  | "__format__" => onInt.formatted e (.complex re im) p
  | _ =>
  p.nothing
  match p.short with
  | "conjugate" => pure (.complex re im.neg)
  | "__complex__" => pure (.complex re im)
  | "__getnewargs__" => pure (.pair (.float re) (.float im))
  | _ => unsupported p.full

end Exemplar.Machine.Method.OnNumber
