import Exemplar.Decimal.Numeral
import Exemplar.Machine.Mathematics
import Exemplar.Machine.Method.Basic
import Exemplar.Text.Lines

/-
  Numbers from other numbers and from texts.
-/

namespace Exemplar.Machine.Construct

/-- The message about a text with too many digits. -/
def longNumeralMessage (digits : Nat) : String :=
  "Exceeds the limit (4300 digits) for integer string conversion: value has " ++
    toString digits ++ " digits; use sys.set_int_max_str_digits() to increase the limit"

/-- The value of a digit in a base of up to 36. -/
def digitOf (base : Nat) (c : Char) : Option Nat :=
  let n := c.toNat
  let v :=
    if '0' ≤ c && c ≤ '9' then some (n - 48)
    else if 'a' ≤ c && c ≤ 'z' then some (n - 87)
    else if 'A' ≤ c && c ≤ 'Z' then some (n - 55)
    else none
  v.filter (· < base)

/-- The integer that a text in a base is; a base of zero is told by what the text starts with. -/
def readIntIn? (base : Nat) (s : List Char) : Option Int := do
  let (negative, s) := Numeral.splitSign (Numeral.asciiDigits (Text.trim s))
  let marked (b : Nat) (mark : Char) : Option (List Char) :=
    match s with
    | '0' :: m :: r => if (base == b || base == 0) && m.toLower == mark then some r else none
    | _ => none
  let isMarked := (s.drop 1).head?.any fun m => ['x', 'o', 'b'].contains m.toLower
  if base == 0 && !isMarked && s.head? == some '0' && !s.all (fun c => c == '0' || c == '_') then
    none
  let (base, s) :=
    match marked 16 'x', marked 8 'o', marked 2 'b' with
    | some r, _, _ => (16, if r.head? == some '_' then r.drop 1 else r)
    | _, some r, _ => (8, if r.head? == some '_' then r.drop 1 else r)
    | _, _, some r => (2, if r.head? == some '_' then r.drop 1 else r)
    | _, _, _ => (if base == 0 then 10 else base, s)
  let ds ← Numeral.dropUnderscores s
  if ds.isEmpty then none
  else
    let values ← ds.mapM (digitOf base)
    let n := values.foldl (fun n d => base * n + d) 0
    some (if negative then -(n : Int) else n)

/-- Whether the number of digits of a text in a base is limited. -/
def isLimited (base : Nat) : Bool := !([0, 2, 4, 8, 16, 32].contains base)

/-- The integer that a text is; `quoted` is what messages quote. -/
def intOfText (e : Engine) (s : String) (quoted : Value) (base : Nat) : Exec Value := do
  let n? := if base == 10 then Numeral.readInt? s.toList else readIntIn? base s.toList
  match n? with
  | some n =>
    let digits := Numeral.digitCount s.toList
    if isLimited base && Decimal.maxDigits < digits then
      Exec.valueError (longNumeralMessage digits)
    pure (.int n)
  | none =>
    let shown ← e.quoted quoted
    Exec.valueError ("invalid literal for int() with base " ++ toString base ++ ": " ++
      String.ofList (shown.toList.take 200))

/-- Bytes as the text of a number. -/
def letters (b : List UInt8) : String := String.ofList (b.map fun x => Char.ofNat x.toNat)

/-- An integer that a declared method made. -/
def intFrom (method : String) (v : Value) : Exec Value := do
  match ← Measure.integer? v with
  | some n => pure (.int n)
  | none => Exec.typeError (method ++ " returned non-int (type " ++ (← Typing.word v) ++ ")")

/-- The integer that a value comes to. -/
def intOfValue (e : Engine) (v : Value) : Exec Value := do
  if let some w ← Typing.callProgram? e v "__int__" [] then return ← intFrom "__int__" w
  match ← Typing.unboxed v with
  | .int n => return .int n
  | .bool b => return .int (if b then 1 else 0)
  | .float x => return .int (← Exec.ofExcept (Rounding.whole Binary64.truncate x))
  | _ => pure ()
  if let some n ← Measure.index? e v then return .int n
  if let some w ← Typing.callProgram? e v "__trunc__" [] then
    match ← Measure.index? e w with
    | some n => return .int n
    | none =>
      Exec.typeError ("__trunc__ returned non-Integral (type " ++ (← Typing.word w) ++ ")")
  match ← Typing.unboxed v, ← Compare.bytes? v with
  | .str s, _ => intOfText e s (.str s) 10
  | _, some b => intOfText e (letters b) (.bytes b) 10
  | _, none =>
    Exec.typeError ("int() argument must be a string, a bytes-like object or a real number, " ++
      "not '" ++ (← Typing.word v) ++ "'")

def int (e : Engine) (p : Passed) : Exec Value := do
  let given ← p.fill ["", "base"] 0 2
  match given.getD 0 none, given.getD 1 none with
  | none, none => pure (.int 0)
  | none, some _ => Exec.typeError "int() missing string argument"
  | some v, none => intOfValue e v
  | some v, some b =>
    let base ← Measure.index e b
    if base != 0 && (base < 2 || 36 < base) then
      Exec.valueError "int() base must be >= 2 and <= 36, or 0"
    match ← Typing.unboxed v, ← Compare.bytes? v with
    | .str s, _ => intOfText e s (.str s) base.toNat
    | _, some b => intOfText e (letters b) (.bytes b) base.toNat
    | _, none => Exec.typeError "int() can't convert non-string with explicit base"

def bool (e : Engine) (p : Passed) : Exec Value := do
  p.between 0 1
  match p.arg? 0 with
  | some v => return .bool (← Measure.truth e v)
  | none => pure (.bool false)

/-- The double that a text is. -/
def floatOfText (e : Engine) (s : String) (quoted : Value) : Exec Value := do
  match Numeral.readFloat? s.toList with
  | some x => Exec.float x
  | none =>
    Exec.valueError ("could not convert string to float: " ++ (← e.quoted quoted))

/-- The double that a number comes to by what its type says, if it says anything. -/
def real? (e : Engine) (v : Value) : Exec (Option Binary64) := do
  if let some w ← Typing.callProgram? e v "__float__" [] then
    match ← Typing.unboxed w with
    | .float x => return some x
    | _ =>
      Exec.typeError ((← Typing.word v) ++ ".__float__ returned non-float (type " ++
        (← Typing.word w) ++ ")")
  match ← Typing.unboxed v with
  | .float x => pure (some x)
  | _ =>
    match ← Measure.index? e v with
    | some n => some <$> Exec.ofExcept (Numeric.toDouble n)
    | none => pure none

def float (e : Engine) (p : Passed) : Exec Value := do
  p.between 0 1
  match p.arg? 0 with
  | none => pure (.float .zero)
  | some (.str s) => floatOfText e s (.str s)
  | some (.float x) => pure (.float x)
  | some v =>
    match ← real? e v with
    | some x =>
      match ← Typing.unboxed v with
      | .float x => pure (.float x)
      | _ => Exec.float x
    | none =>
      match ← Typing.unboxed v, ← Compare.bytes? v with
      | .str s, _ => floatOfText e s v
      | _, some b => floatOfText e (letters b) v
      | _, none =>
        Exec.typeError ("float() argument must be a string or a real number, not '" ++
          (← Typing.word v) ++ "'")

/-- The double at the start of a text, with what follows it. -/
def readFront? (s : List Char) : Option (Binary64 × List Char) :=
  let candidates := (List.range s.length).reverse.map fun n => (s.take (n + 1), s.drop (n + 1))
  candidates.findSome? fun (front, rest) =>
    if front.any Text.isBlank || front.contains '_' then none
    else (Numeral.readFloat? front).map (·, rest)

/-- The complex number that a text is. -/
def readComplex? (s : List Char) : Option (Binary64 × Binary64) := do
  let s := Text.trim s
  let s ← match s with
    | '(' :: r =>
      if r.getLast? == some ')' then some (Text.trim r.dropLast) else none
    | s => some s
  let isUnit (c : Char) : Bool := c == 'j' || c == 'J'
  let one : Binary64 := .ofInt 1
  let signOnly (r : List Char) : Option (Binary64 × List Char) :=
    match r with
    | '+' :: r => some (one, r)
    | '-' :: r => some (one.neg, r)
    | r => some (one, r)
  match readFront? s with
  | some (x, []) => some (x, .zero)
  | some (x, [c]) => if isUnit c then some (.zero, x) else none
  | some (x, r) =>
    if r.head? != some '+' && r.head? != some '-' then none
    else match readFront? r with
      | some (y, [c]) => if isUnit c then some (x, y) else none
      | some _ => none
      | none =>
        match signOnly r with
        | some (y, [c]) => if isUnit c then some (x, y) else none
        | _ => none
  | none =>
    match signOnly s with
    | some (y, [c]) => if isUnit c then some (.zero, y) else none
    | _ => none

/-- A number as real and imaginary part. -/
def complexPart? (e : Engine) (v : Value) : Exec (Option (Binary64 × Binary64)) := do
  match ← Typing.callProgram? e v "__complex__" [] with
  | some w =>
    match ← Typing.unboxed w with
    | .complex a b => pure (some (a, b))
    | _ =>
      Exec.typeError ("__complex__ returned non-complex (type " ++ (← Typing.word w) ++ ")")
  | none =>
    match ← Typing.unboxed v with
    | .complex a b => pure (some (a, b))
    | _ => return (← real? e v).map (·, .zero)

def complex (e : Engine) (p : Passed) : Exec Value := do
  let given ← p.fill ["real", "imag"] 0 2
  let first := (given.getD 0 none).getD (.int 0)
  let second := given.getD 1 none
  match ← Typing.unboxed first with
  | .str s =>
    if second.isSome then Exec.typeError "complex() can't take second arg if first is a string"
    match readComplex? s.toList with
    | some (a, b) => pure (.complex a b)
    | none => Exec.valueError "complex() arg is a malformed string"
  | _ =>
    if let some v := second then
      if let .str _ := ← Typing.unboxed v then
        Exec.typeError "complex() second arg can't be a string"
    let (a, b) ← match ← complexPart? e first with
      | some x => pure x
      | none =>
        Exec.typeError ("complex() first argument must be a string or a number, not '" ++
          (← Typing.word first) ++ "'")
    match second with
    | none => pure (.complex a b)
    | some v =>
      let isPlain ← match ← Typing.unboxed v with
        | .complex _ _ => pure false
        | _ => pure true
      match ← if isPlain then asPart (← real? e v) else complexPart? e v with
      | none =>
        Exec.typeError ("complex() second argument must be a number, not '" ++
          (← Typing.word v) ++ "'")
      | some (c, d) =>
        let re := if isPlain then a else a.sub d
        let im := match ← Typing.unboxed first with
          | .complex _ _ => b.add c
          | _ => c
        pure (.complex re im)
where
  asPart (x : Option Binary64) : Exec (Option (Binary64 × Binary64)) := pure (x.map (·, .zero))

end Exemplar.Machine.Construct
