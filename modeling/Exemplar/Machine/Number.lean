import Exemplar.Datum
import Exemplar.Machine.Value
import Exemplar.Raised

/-
  Arithmetic. Integers are exact and of any size; doubles follow the rules of binary arithmetic; an
  integer meets a double as the nearest double. Quotients and remainders go toward the floor.
-/

namespace Exemplar

namespace Binary64

def add (x y : Binary64) : Binary64 := ofFloat (x.toFloat + y.toFloat)

def sub (x y : Binary64) : Binary64 := ofFloat (x.toFloat - y.toFloat)

def mul (x y : Binary64) : Binary64 := ofFloat (x.toFloat * y.toFloat)

def div (x y : Binary64) : Binary64 := ofFloat (x.toFloat / y.toFloat)

def abs (x : Binary64) : Binary64 := ofParts false (x.bits.toNat % Nat.pow 2 63)

/-- The size of `x` less as many sizes of `y` as fit into it, with the sign of `x`; both finite and
`y` not zero. It is always a double. -/
def remainder (x y : Binary64) : Binary64 :=
  let q := min x.exponent y.exponent
  let m := x.significand * Nat.pow 2 (x.exponent - q).toNat
  let n := y.significand * Nat.pow 2 (y.exponent - q).toNat
  let r := m % n
  match q with
  | .ofNat k => ofRatio x.negative (r * Nat.pow 2 k) 1
  | .negSucc k => ofRatio x.negative r (Nat.pow 2 (k + 1))

/-- A finite number as a quotient. -/
def ratio (x : Binary64) : Int × Nat :=
  let (num, den) := x.magnitude
  (if x.negative then -(num : Int) else num, den)

/-- Compares two numbers of which none is no number. -/
def order (x y : Binary64) : Ordering :=
  if x.isZero && y.isZero then .eq
  else if x.isInfinite || y.isInfinite then
    let rank (z : Binary64) : Int := if !z.isInfinite then 0 else if z.negative then -1 else 1
    compare (rank x) (rank y)
  else
    let (a, b) := x.ratio
    let (c, d) := y.ratio
    compare (a * d) (c * b)

end Binary64

namespace Machine.Numeric

/-- What arithmetic comes to: a value, or the class and text of an exception. -/
abbrev Outcome := Except Raised Value

/-- What is raised where a result lies beyond all doubles. -/
def outOfRange : Raised := ⟨"OverflowError", "Numerical result out of range"⟩

def divisionByZero (text : String) : Outcome := .error ⟨"ZeroDivisionError", text⟩

/-- The double nearest to an integer, if there is one that is finite. -/
def toDouble (n : Int) : Except Raised Binary64 :=
  let x := Binary64.ofInt n
  if x.isInfinite then .error ⟨"OverflowError", "int too large to convert to float"⟩ else .ok x

/-- An integer to a natural power. -/
def intPower (a : Int) (k : Nat) : Int :=
  let n : Int := (Nat.pow a.natAbs k : Nat)
  if a < 0 && k % 2 == 1 then -n else n

/-- Whether the power of an integer has more than some billion bits. -/
def isVastPower (a : Int) (k : Nat) : Bool :=
  1 < a.natAbs && Nat.pow 2 31 < (Nat.log2 a.natAbs + 1) * k

/-- A double to the power of another. -/
def floatPower (x y : Binary64) : Outcome :=
  let fx := x.toFloat
  let fy := y.toFloat
  if x.isZero && y.negative && !y.isZero && !y.isNaN then
    divisionByZero "0.0 cannot be raised to a negative power"
  else if x.negative && !x.isZero && !x.isNaN && x.isFinite && y.isFinite && !y.isInteger then
    let size := Float.pow fx.abs fy
    let angle := Float.atan2 0.0 fx * fy
    .ok (.complex (.ofFloat (size * angle.cos)) (.ofFloat (size * angle.sin)))
  else
    let r := Binary64.ofFloat (Float.pow fx fy)
    if r.isInfinite && x.isFinite && y.isFinite then
      .error outOfRange
    else .ok (.float r)

/-- The part of `x` that whole sizes of `y` leave, with the sign of `x`. -/
def floatRest (x y : Binary64) : Binary64 :=
  if x.isNaN || y.isNaN || x.isInfinite then .nan
  else if y.isInfinite then x
  else x.remainder y

/-- The quotient of doubles toward the floor, and the remainder with the sign of the divisor. -/
def floatDivMod (x y : Binary64) : Binary64 × Binary64 :=
  let rest := floatRest x y
  let quotient := (x.sub rest).div y
  let crosses := !rest.isZero && !rest.isNaN && y.negative != rest.negative
  let (quotient, rest) :=
    if rest.isZero then (quotient, Binary64.ofParts y.negative 0)
    else if crosses then (quotient.sub (.ofInt 1), rest.add y)
    else (quotient, rest)
  let whole :=
    if quotient.isZero then Binary64.ofParts (x.div y).negative 0
    else if !quotient.isFinite then quotient
    else
      let f := Binary64.ofInt quotient.floor
      if (quotient.sub f).toFloat > 0.5 then f.add (.ofInt 1) else f
  (whole, rest)

/-- A shift that no number of digits has room for. -/
def isHopelessShift (n : Int) : Bool := Nat.pow 2 65 < n.toNat

def intBinary (op : BinaryOp) (a b : Int) : Option Outcome :=
  match op with
  | .add => some (.ok (.int (a + b)))
  | .sub => some (.ok (.int (a - b)))
  | .mult => some (.ok (.int (a * b)))
  | .div => some (
    if b == 0 then divisionByZero "division by zero"
    else
      let x := Binary64.ofRatio ((a < 0) != (b < 0)) a.natAbs b.natAbs
      if x.isInfinite then .error ⟨"OverflowError", "integer division result too large for a float"⟩
      else .ok (.float x))
  | .floorDiv => some (
    if b == 0 then divisionByZero "integer division or modulo by zero"
    else .ok (.int (a.fdiv b)))
  | .mod => some (
    if b == 0 then divisionByZero "integer modulo by zero" else .ok (.int (a.fmod b)))
  | .pow => some (
    if b < 0 then
      if a == 0 then divisionByZero "0.0 cannot be raised to a negative power"
      else do floatPower (← toDouble a) (← toDouble b)
    else if isVastPower a b.toNat then .error ⟨"MemoryError", ""⟩
    else .ok (.int (intPower a b.toNat)))
  | .shiftLeft => some (
    if b < 0 then .error (.valueError "negative shift count")
    else if a == 0 then .ok (.int 0)
    else if isHopelessShift b then .error ⟨"OverflowError", "too many digits in integer"⟩
    else if isVastPower 2 b.toNat then .error ⟨"MemoryError", ""⟩
    else .ok (.int (a * Nat.pow 2 b.toNat)))
  | .shiftRight => some (
    if b < 0 then .error (.valueError "negative shift count")
    else if Nat.log2 a.natAbs < b.toNat then .ok (.int (if a < 0 then -1 else 0))
    else .ok (.int (a.shiftRight b.toNat)))
  | .bitOr => some (.ok (.int (bits (· || ·) a b)))
  | .bitXor => some (.ok (.int (bits (· != ·) a b)))
  | .bitAnd => some (.ok (.int (bits (· && ·) a b)))
  | .matMult => none
where
  /-- An operation on the bits of two integers, negative ones with endless leading ones. -/
  bits (f : Bool → Bool → Bool) (a b : Int) : Int :=
    let width := Nat.max (Nat.log2 a.natAbs) (Nat.log2 b.natAbs) + 2
    let n := (List.range width).foldl (fun n i =>
      if f (bitAt a i) (bitAt b i) then n + Nat.pow 2 i else n) 0
    if f (a < 0) (b < 0) then (n : Int) - Nat.pow 2 width else n
  bitAt (a : Int) (i : Nat) : Bool := (a / Nat.pow 2 i) % 2 == 1

def floatBinary (op : BinaryOp) (x y : Binary64) : Option Outcome :=
  match op with
  | .add => some (.ok (.float (x.add y)))
  | .sub => some (.ok (.float (x.sub y)))
  | .mult => some (.ok (.float (x.mul y)))
  | .div => some (
    if y.isZero then divisionByZero "float division by zero" else .ok (.float (x.div y)))
  | .floorDiv => some (
    if y.isZero then divisionByZero "float floor division by zero"
    else .ok (.float (floatDivMod x y).1))
  | .mod => some (
    if y.isZero then divisionByZero "float modulo" else .ok (.float (floatDivMod x y).2))
  | .pow => some (floatPower x y)
  | _ => none

/-! ### Complex numbers -/

def complexTimes (a b c d : Binary64) : Binary64 × Binary64 :=
  ((a.mul c).sub (b.mul d), (a.mul d).add (b.mul c))

/-- A quotient of complex numbers; the larger part of the divisor divides the other, so that no
square is taken. -/
def complexQuotient? (a b c d : Binary64) : Option (Binary64 × Binary64) :=
  if c.isNaN || d.isNaN then some (.nan, .nan)
  else if d.abs.order c.abs != .gt then
    if c.isZero then none
    else
      let ratio := d.div c
      let size := c.add (d.mul ratio)
      some (((a.add (b.mul ratio)).div size), ((b.sub (a.mul ratio)).div size))
  else
    let ratio := c.div d
    let size := (c.mul ratio).add d
    some ((((a.mul ratio).add b).div size), (((b.mul ratio).sub a).div size))

/-- A complex number to a natural power, by squaring; each step uses up one binary digit. -/
def complexPowerNat : Nat → Nat → Binary64 × Binary64 → Binary64 × Binary64 → Binary64 × Binary64
  | 0, _, _, done => done
  | fuel + 1, n, (a, b), (c, d) =>
    if n == 0 then (c, d)
    else
      complexPowerNat fuel (n / 2) (complexTimes a b a b)
        (if n % 2 == 1 then complexTimes c d a b else (c, d))

def complexPower (a b c d : Binary64) : Outcome :=
  let one := Binary64.ofInt 1
  let zeroPower := divisionByZero "0.0 to a negative or complex power"
  let settle (re im : Binary64) : Outcome :=
    if re.isInfinite || im.isInfinite then .error ⟨"OverflowError", "complex exponentiation"⟩
    else .ok (.complex re im)
  if d.isZero && c.isInteger && c.abs.order (.ofInt 100) != .gt then
    let n := c.truncate
    let (re, im) := complexPowerNat 8 n.natAbs (a, b) (one, .zero)
    if 0 < n then settle re im
    else match complexQuotient? one .zero re im with
      | some (re, im) => settle re im
      | none => zeroPower
  else if a.isZero && b.isZero then
    if !d.isZero || c.negative then zeroPower else .ok (.complex .zero .zero)
  else
    let size := (a.toFloat * a.toFloat + b.toFloat * b.toFloat).sqrt
    let angle := Float.atan2 b.toFloat a.toFloat
    let length := Float.pow size c.toFloat
    let phase := angle * c.toFloat
    let (length, phase) :=
      if d.isZero then (length, phase)
      else (length * Float.exp (-angle * d.toFloat), phase + d.toFloat * Float.log size)
    settle (.ofFloat (length * phase.cos)) (.ofFloat (length * phase.sin))

def complexBinary (op : BinaryOp) (a b c d : Binary64) : Option Outcome :=
  match op with
  | .add => some (.ok (.complex (a.add c) (b.add d)))
  | .sub => some (.ok (.complex (a.sub c) (b.sub d)))
  | .mult =>
    let (re, im) := complexTimes a b c d
    some (.ok (.complex re im))
  | .div => some (
    match complexQuotient? a b c d with
    | some (re, im) => .ok (.complex re im)
    | none => divisionByZero "complex division by zero")
  | .pow => some (complexPower a b c d)
  | _ => none

/-- The parts of a number as a complex one. -/
def toComplex : Numeric → Except Raised (Binary64 × Binary64)
  | .int n => (toDouble n).map (·, .zero)
  | .float x => .ok (x, .zero)
  | .complex a b => .ok (a, b)

/-- Applies an operation to two numbers, if numbers have it. -/
def binary (op : BinaryOp) : Numeric → Numeric → Option Outcome
  | .int a, .int b => intBinary op a b
  | .float x, .float y => floatBinary op x y
  | .int a, .float y =>
    match toDouble a with
    | .ok x => floatBinary op x y
    | .error e => (floatBinary op y y).map fun _ => .error e
  | .float x, .int b =>
    match toDouble b with
    | .ok y => floatBinary op x y
    | .error e => (floatBinary op x x).map fun _ => .error e
  | a, b =>
    match a.toComplex, b.toComplex with
    | .ok (a, b), .ok (c, d) => complexBinary op a b c d
    | .error e, _ => some (.error e)
    | _, .error e => some (.error e)

/-- Whether two numbers are the same number. -/
def equal : Numeric → Numeric → Bool
  | .int a, .int b => a == b
  | .float x, .float y => Scalar.equal (.float x) (.float y)
  | .int a, .float y => Scalar.equal (.int a) (.float y)
  | .float x, .int b => Scalar.equal (.float x) (.int b)
  | .complex a b, .complex c d =>
    Scalar.equal (.float a) (.float c) && Scalar.equal (.float b) (.float d)
  | .complex a b, .int n => b.isZero && Scalar.equal (.float a) (.int n)
  | .int n, .complex a b => b.isZero && Scalar.equal (.float a) (.int n)
  | .complex a b, .float x => b.isZero && Scalar.equal (.float a) (.float x)
  | .float x, .complex a b => b.isZero && Scalar.equal (.float a) (.float x)

/-- Compares an integer with a double that is a number. -/
def orderWith (n : Int) (x : Binary64) : Ordering :=
  if x.isInfinite then (if x.negative then .gt else .lt)
  else
    let (a, b) := x.ratio
    compare (n * b) a

/-- Compares two real numbers; nothing comes of one that is no number. -/
def order? : Numeric → Numeric → Option Ordering
  | .int a, .int b => some (compare a b)
  | .float x, .float y => if x.isNaN || y.isNaN then none else some (x.order y)
  | .int a, .float y => if y.isNaN then none else some (orderWith a y)
  | .float x, .int b => if x.isNaN then none else some (orderWith b x).swap
  | _, _ => none

def isComplex : Numeric → Bool
  | .complex _ _ => true
  | _ => false

/-- Applies a sign or inverts the bits, if the number has that. -/
def unary (op : UnaryOp) : Numeric → Option Value
  | .int n =>
    match op with
    | .minus => some (.int (-n))
    | .plus => some (.int n)
    | .invert => some (.int (-n - 1))
    | .not => none
  | .float x =>
    match op with
    | .minus => some (.float x.neg)
    | .plus => some (.float x)
    | _ => none
  | .complex a b =>
    match op with
    | .minus => some (.complex a.neg b.neg)
    | .plus => some (.complex a b)
    | _ => none

end Machine.Numeric

end Exemplar
