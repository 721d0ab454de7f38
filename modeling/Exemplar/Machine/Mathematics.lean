import Exemplar.Decimal.Numeral
import Exemplar.Machine.Method.Basic
import Exemplar.Machine.Operate

/-
  Numbers made coarser: rounded to some digits before or behind the point, a half going to the even
  neighbour, cut to whole numbers, and the size of a complex number.

  Doubles taken apart, moved along their grid, added up exactly and measured. Every finite double
  is a whole number of units of `2 ^ -1074`, in which sums and sums of squares are exact, so that a
  result is rounded once.

  The functions of the mathematics module. Those of integers are exact; those of doubles are refused
  where they have no value, or none that is finite.
-/

namespace Exemplar.Machine.Rounding

/-- The whole number nearest to a quotient, the even one of two. -/
def halfEven (m : Int) (d : Nat) : Int :=
  let q := m.fdiv d
  let r := 2 * (m - q * d)
  if r < d then q else if (d : Int) < r then q + 1 else if q % 2 == 0 then q else q + 1

/-- An integer rounded to a multiple of a power of ten. -/
def intTo (n digits : Int) : Int :=
  if 0 ≤ digits then n
  else
    let places := digits.natAbs
    if n.natAbs.log2 + 2 < places then 0
    else
      let unit := Nat.pow 10 places
      halfEven n unit * unit

/-- A double rounded to some digits behind the point, or before it. -/
def floatTo (x : Binary64) (digits : Int) : Except Raised Binary64 :=
  if !x.isFinite || 323 < digits then .ok x
  else if digits < -308 then .ok (if x.negative then Binary64.zero.neg else .zero)
  else
    let text :=
      if 0 ≤ digits then (Decimal.fixedText x.abs digits.toNat).toList
      else
        let (m, d) := x.abs.ratio
        let unit := Nat.pow 10 digits.natAbs
        (toString (halfEven m (d * unit) * unit)).toList
    match Numeral.readFloat? text with
    | none => .ok x
    | some y =>
      if y.isInfinite then .error ⟨"OverflowError", "rounded value too large to represent"⟩
      else .ok (if x.negative then y.neg else y)

/-- A whole number made of a double in some way. -/
def whole (f : Binary64 → Int) (x : Binary64) : Except Raised Int :=
  if x.isNaN then .error ⟨"ValueError", "cannot convert float NaN to integer"⟩
  else if x.isInfinite then .error ⟨"OverflowError", "cannot convert float infinity to integer"⟩
  else .ok (f x)

/-- The whole number nearest to a double. -/
def nearest (x : Binary64) : Int :=
  let (m, d) := x.ratio
  halfEven m d

/-- The root of a quotient, cut to a fraction that is fine enough to be rounded. -/
def rootOf (num den : Nat) : Nat × Nat :=
  let scale := Nat.pow 2 (120 + den.log2)
  let whole := num * den * scale * scale
  let rec root : Nat → Nat → Nat
    | 0, r => r
    | n + 1, r =>
      let next := (r + whole / r) / 2
      if next < r then root n next else r
  let r := if whole == 0 then 0 else root (whole.log2 + 8) (Nat.pow 2 (whole.log2 / 2 + 1))
  let odd := if r * r == whole then 0 else 1
  (2 * r + odd, 2 * den * scale)

/-- The size of a complex number. -/
def magnitude (re im : Binary64) : Except Raised Binary64 :=
  if re.isInfinite || im.isInfinite then .ok (.infinity false)
  else if re.isNaN || im.isNaN then .ok .nan
  else
    let (a, b) := re.abs.ratio
    let (c, d) := im.abs.ratio
    let (num, den) := rootOf
      (a.toNat * a.toNat * d * d + c.toNat * c.toNat * b * b) (b * b * d * d)
    let x := if num == 0 then .zero else Binary64.ofRatio false num den
    if x.isInfinite then .error ⟨"OverflowError", "absolute value too large"⟩ else .ok x

/-- A value rounded to some digits, by the type that is there without a declaration. -/
def plainly? (e : Engine) (v : Value) (digits : Option Value) : Exec (Option Value) := do
  let given := digits.filter fun d => !d.isNone
  match ← Typing.unboxed v, given with
  | .float x, none => return some (.int (← Exec.ofExcept (whole nearest x)))
  | .float x, some d =>
    let n ← Measure.index e d
    let y ← Exec.ofExcept (floatTo x n)
    return some (← Exec.float y)
  | w, given =>
    match w.int? with
    | none => pure none
    | some n =>
      match given with
      | none => pure (some (.int n))
      | some d => return some (.int (intTo n (← Measure.index e d)))

/-- The size of a number. -/
def absolute (e : Engine) (v : Value) : Exec Value := do
  match ← Typing.callProgram? e v "__abs__" [] with
  | some w => pure w
  | none =>
    match Numeric.ofValue? (← Typing.unboxed v) with
    | some (.int n) => pure (.int n.natAbs)
    | some (.float x) => pure (.float x.abs)
    | some (.complex re im) => do Exec.float (← Exec.ofExcept (magnitude re im))
    | none => Exec.typeError ("bad operand type for abs(): '" ++ (← Typing.word v) ++ "'")

end Exemplar.Machine.Rounding

namespace Exemplar.Binary64

/-- The number times a power of two, rounded once. Powers beyond a few thousand make no difference
to any double. -/
def scaled (x : Binary64) (power : Int) : Binary64 :=
  if !x.isFinite || x.isZero then x else
  let (num, den) := x.magnitude
  match max (-3000) (min 3000 power) with
  | .ofNat k => ofRatio x.negative (num * Nat.pow 2 k) den
  | .negSucc k => ofRatio x.negative num (den * Nat.pow 2 (k + 1))

/-- The number as a fraction of a size from one half up to one, times a power of two. -/
def split (x : Binary64) : Binary64 × Int :=
  if !x.isFinite || x.isZero then (x, 0) else
  let (num, den) := x.magnitude
  let power := floorLog2 num den + 1
  (x.scaled (-power), power)

/-- The number without its fractional part, of the same sign. -/
def integral (x : Binary64) : Binary64 :=
  if x.isFinite then ofRatio x.negative x.truncate.natAbs 1 else x

/-- The fractional part of the number, of the same sign. -/
def fractional (x : Binary64) : Binary64 :=
  if x.isNaN then x
  else if x.isInfinite then ofParts x.negative 0
  else
    let (num, den) := x.magnitude
    ofRatio x.negative (num % den) den

/-- The double next to `x` on the way to `y`. -/
def toward (x y : Binary64) : Binary64 :=
  if x.isNaN || y.isNaN then nan
  else if x.order y == .eq then y
  else if x.isZero then ofParts y.negative 1
  else
    let size := x.bits.toNat % Nat.pow 2 63
    ofParts x.negative (if (x.order y == .lt) != x.negative then size + 1 else size - 1)

/-- The value of the last binary place of a number. -/
def lastPlace (x : Binary64) : Binary64 :=
  if x.isFinite then (ofRatio false 1 1).scaled x.exponent else x.abs

/-- `x` less the multiple of `y` that is nearest to it, the even one of two; both finite and `y` not
zero. -/
def nearestRemainder (x y : Binary64) : Binary64 :=
  let q := min x.exponent y.exponent
  let m := x.significand * Nat.pow 2 (x.exponent - q).toNat
  let n := y.significand * Nat.pow 2 (y.exponent - q).toNat
  let r := m % n
  let isPast := n < 2 * r || (2 * r == n && m / n % 2 == 1)
  (ofRatio (x.negative != isPast) (if isPast then n - r else r) 1).scaled q

/-- A finite number in units of `2 ^ -1074`. -/
def units (x : Binary64) : Int :=
  let n : Int := x.significand * Nat.pow 2 (x.exponent + 1074).toNat
  if x.negative then -n else n

/-- The double nearest to a number of units. -/
def ofUnits (n : Int) : Binary64 := ofRatio (n < 0) n.natAbs (Nat.pow 2 1074)

/-- The root of the sum of the squares of some numbers. -/
def norm (xs : List Binary64) : Binary64 :=
  if xs.any (·.isInfinite) then infinity false
  else if xs.any (·.isNaN) then nan
  else
    let squares := xs.foldl (fun n x => n + x.units.natAbs * x.units.natAbs) 0
    if squares == 0 then zero
    else
      let (num, den) := Machine.Rounding.rootOf squares (Nat.pow 2 2148)
      ofRatio false num den

/-- The first number is at most the second; nothing is so for no number. -/
def atMost (x y : Binary64) : Bool := !x.isNaN && !y.isNaN && x.order y != .gt

/-- Two numbers differ by no more than a part of the greater, or a bound. -/
def isClose (part bound x y : Binary64) : Bool :=
  if x.atMost y && y.atMost x then true
  else if x.isInfinite || y.isInfinite then false
  else
    let apart := (y.sub x).abs
    apart.atMost (part.mul y).abs || apart.atMost (part.mul x).abs || apart.atMost bound

end Exemplar.Binary64

namespace Exemplar.Machine.Mathematics

/-- A whole number near a value: what a class says about it, or what is made of a double. -/
def whole (e : Engine) (method : String) (f : Binary64 → Int) (v : Value) : Exec Value := do
  match ← Typing.callProgram? e v method [] with
  | some w => pure w
  | none =>
    match (← Typing.unboxed v).int? with
    | some n => pure (.int n)
    | none =>
      if method == "__trunc__" then
        match ← Typing.unboxed v with
        | .float x => return .int (← Exec.ofExcept (Rounding.whole f x))
        | _ =>
          Exec.typeError ("type " ++ (← Typing.word v) ++ " doesn't define __trunc__ method")
      else return .int (← Exec.ofExcept (Rounding.whole f (← Format.real e v)))

/-- The product of so many numbers, the first of them and each the next one after the last. -/
def product (first : Nat) (count : Nat) : Nat :=
  (List.range count).foldl (fun n i => n * (first + i)) 1

/-- A number of steps that a computation on numbers may take. -/
def maxFactors : Nat := 200000

/-- The square root of a number, cut to a whole one. -/
def root (n : Nat) : Nat :=
  let rec narrow : Nat → Nat → Nat
    | 0, r => r
    | k + 1, r =>
      let next := (r + n / r) / 2
      if next < r then narrow k next else r
  if n == 0 then 0 else narrow (n.log2 + 8) (Nat.pow 2 (n.log2 / 2 + 1))

def domainError {α : Type} : Exec α := Exec.valueError "math domain error"

def rangeError {α : Type} : Exec α := Exec.overflow "math range error"

/-- The functions of one double that the processor's arithmetic offers. -/
def smooth : List (String × (Float → Float)) :=
  [("acos", Float.acos), ("acosh", Float.acosh), ("asin", Float.asin), ("asinh", Float.asinh),
   ("atan", Float.atan), ("atanh", Float.atanh), ("cbrt", Float.cbrt), ("cos", Float.cos),
   ("cosh", Float.cosh), ("exp", Float.exp), ("exp2", Float.exp2), ("sin", Float.sin),
   ("sinh", Float.sinh), ("sqrt", Float.sqrt), ("tan", Float.tan), ("tanh", Float.tanh)]

/-- The names of all functions. -/
def functions : List String :=
  smooth.map (·.1) ++
    ["atan2", "ceil", "comb", "copysign", "degrees", "dist", "fabs", "factorial", "floor", "fmod",
     "frexp", "fsum", "gcd", "hypot", "isclose", "isfinite", "isinf", "isnan", "isqrt", "lcm",
     "ldexp", "log", "log10", "log2", "modf", "nextafter", "perm", "pow", "prod", "radians",
     "remainder", "trunc", "ulp"]

/-- A function of doubles, refused where it has no value, or none that is finite; some have poles,
where others only grow beyond all doubles. -/
def real (e : Engine) (f : Float → Float) (hasPoles : Bool) (v : Value) : Exec Value := do
  let x ← Format.real e v
  let y := Binary64.ofFloat (f x.toFloat)
  if y.isNaN && !x.isNaN then domainError
  if y.isInfinite && x.isFinite then if hasPoles then domainError else rangeError
  Exec.float y

/-- A logarithm. That of an integer does not need a double that holds it. -/
def logarithm (e : Engine) (f : Float → Float) (v : Value) : Exec Binary64 := do
  match ← Measure.integer? v with
  | some n =>
    if n ≤ 0 then domainError
    match Numeric.toDouble n with
    | .ok x => pure (.ofFloat (f x.toFloat))
    | .error _ =>
      let shift := n.toNat.log2 - 60
      let x := Binary64.ofInt (n / (Nat.pow 2 shift : Nat))
      pure (.ofFloat (f x.toFloat + f 2.0 * (Float.ofNat shift)))
  | none =>
    let x ← Format.real e v
    if x.isNaN then pure x
    else if x.isZero || x.negative then domainError
    else pure (.ofFloat (f x.toFloat))

/-- An integer that an argument is, not below zero. -/
def natural (e : Engine) (message : String) (v : Value) : Exec Nat := do
  let n ← Measure.index e v
  if n < 0 then Exec.valueError message
  pure n.toNat

/-- A product of so many factors, unless they are too many. -/
def factors (first count : Nat) : Exec Nat := do
  if maxFactors < count then Exec.raiseArgs "MemoryError" []
  pure (product first count)

/-- The exact sum of doubles, rounded once. Infinities stand for themselves, unless they are of both
signs. -/
def exactSum (xs : List Binary64) : Exec Value := do
  let special := xs.filter fun x => !x.isFinite
  let mut total : Int := 0
  for x in xs do
    if x.isFinite then
      total := total + x.units
      if (Binary64.ofUnits total).isInfinite then
        Exec.overflow "intermediate overflow in fsum"
  if special.isEmpty then Exec.float (.ofUnits total)
  else if special.any (·.isNaN) then Exec.float .nan
  else if special.any (·.negative) && special.any (!·.negative) then
    Exec.valueError "-inf + inf in fsum"
  else Exec.float (special.headD .nan)

/-- The coordinates of a point. -/
def point (e : Engine) (v : Value) : Exec (List Binary64) := do
  (← Iterate.collect e v).mapM (Format.real e)

/-- A number times a power of two. -/
def timesPower (x : Binary64) (v : Value) : Exec Value := do
  match (← Typing.unboxed v).int? with
  | none => Exec.typeError "Expected an int as second argument to ldexp."
  | some n =>
    let y := x.scaled n
    if y.isInfinite && x.isFinite then rangeError
    Exec.float y

/-- Whether two numbers are close to each other. -/
def closeness (e : Engine) (p : Passed) : Exec Value := do
  let given ← p.fill ["a", "b", "rel_tol", "abs_tol"] 2 2
  let number (i : Nat) (otherwise : Binary64) : Exec Binary64 :=
    match given.getD i none with
    | some v => Format.real e v
    | none => pure otherwise
  let x ← number 0 .zero
  let y ← number 1 .zero
  let part ← number 2 ⟨0x3e112e0be826d695⟩
  let bound ← number 3 .zero
  let isBelow (z : Binary64) : Bool := z.negative && !z.isZero && !z.isNaN
  if isBelow part || isBelow bound then Exec.valueError "tolerances must be non-negative"
  pure (.bool (Binary64.isClose part bound x y))

/-- Calls a function of mathematics. -/
def call (e : Engine) (p : Passed) : Exec Value := do
  let pair : Exec (Binary64 × Binary64) := do
    p.between 2 2
    return (← Format.real e (p.arg 0), ← Format.real e (p.arg 1))
  match p.short with
  | "floor" => do whole e "__floor__" Binary64.floor (← p.one)
  | "ceil" => do whole e "__ceil__" Binary64.ceil (← p.one)
  | "trunc" => do whole e "__trunc__" Binary64.truncate (← p.one)
  | "fabs" => return .float (← Format.real e (← p.one)).abs
  | "degrees" => do
    let x ← Format.real e (← p.one)
    Exec.float (x.mul ⟨0x404ca5dc1a63c1f8⟩)
  | "radians" => do
    let x ← Format.real e (← p.one)
    Exec.float (x.mul ⟨0x3f91df46a2529d39⟩)
  | "isnan" => return .bool (← Format.real e (← p.one)).isNaN
  | "isinf" => return .bool (← Format.real e (← p.one)).isInfinite
  | "isfinite" => return .bool (← Format.real e (← p.one)).isFinite
  | "log2" => do Exec.float (← logarithm e Float.log2 (← p.one))
  | "log10" => do Exec.float (← logarithm e Float.log10 (← p.one))
  | "log" =>
    p.between 1 2
    let x ← logarithm e Float.log (p.arg 0)
    match p.arg? 1 with
    | none => Exec.float x
    | some b =>
      let y ← logarithm e Float.log b
      if y.isZero then Exec.raise "ZeroDivisionError" "float division by zero"
      Exec.float (x.div y)
  | "copysign" => do
    let (x, y) ← pair
    pure (.float (if x.negative == y.negative then x else x.neg))
  | "fmod" => do
    let (x, y) ← pair
    if x.isNaN || y.isNaN then Exec.float .nan
    else if x.isInfinite || y.isZero then domainError
    else if y.isInfinite then pure (.float x)
    else pure (.float (x.remainder y))
  | "remainder" => do
    let (x, y) ← pair
    if x.isNaN || y.isNaN then Exec.float .nan
    else if x.isInfinite || y.isZero then domainError
    else if y.isInfinite then pure (.float x)
    else pure (.float (x.nearestRemainder y))
  | "atan2" => do
    let (x, y) ← pair
    Exec.float (.ofFloat (Float.atan2 x.toFloat y.toFloat))
  | "nextafter" => do
    let (x, y) ← pair
    Exec.float (x.toward y)
  | "ulp" => do Exec.float (← Format.real e (← p.one)).lastPlace
  | "frexp" => do
    let (x, power) := (← Format.real e (← p.one)).split
    return .tuple [← Exec.float x, .int power]
  | "modf" => do
    let x ← Format.real e (← p.one)
    return .tuple [← Exec.float x.fractional, ← Exec.float x.integral]
  | "ldexp" => do
    p.between 2 2
    timesPower (← Format.real e (p.arg 0)) (p.arg 1)
  | "fsum" => do exactSum (← point e (← p.one))
  | "hypot" => do
    p.byPlace
    Exec.float (.norm (← p.args.mapM (Format.real e)))
  | "dist" => do
    p.between 2 2
    let xs ← point e (p.arg 0)
    let ys ← point e (p.arg 1)
    if xs.length != ys.length then
      Exec.valueError "both points must have the same number of dimensions"
    Exec.float (.norm (xs.zipWith (fun x y => (x.sub y).abs) ys))
  | "isclose" => closeness e p
  | "pow" => do
    let (x, y) ← pair
    let r := Binary64.ofFloat (Float.pow x.toFloat y.toFloat)
    if r.isNaN && !x.isNaN && !y.isNaN then domainError
    if r.isInfinite && x.isFinite && y.isFinite then
      if x.isZero then domainError else rangeError
    Exec.float r
  | "factorial" => do
    let n ← natural e "factorial() not defined for negative values" (← p.one)
    return .int (← factors 1 n)
  | "isqrt" => do
    let n ← natural e "isqrt() argument must be nonnegative" (← p.one)
    pure (.int (root n))
  | "comb" =>
    p.between 2 2
    let n ← natural e "n must be a non-negative integer" (p.arg 0)
    let k ← natural e "k must be a non-negative integer" (p.arg 1)
    if n < k then return .int 0
    let k := min k (n - k)
    return .int ((← factors (n - k + 1) k) / (← factors 1 k) : Nat)
  | "perm" =>
    p.between 1 2
    let n ← natural e "n must be a non-negative integer" (p.arg 0)
    let k ← match p.arg? 1 with
      | none | some .none => pure n
      | some v => natural e "k must be a non-negative integer" v
    if n < k then return .int 0
    return .int (← factors (n - k + 1) k)
  | "gcd" =>
    p.byPlace
    let ns ← p.args.mapM (Measure.index e)
    pure (.int (ns.foldl (fun g n => Nat.gcd g n.natAbs) (0 : Nat) : Nat))
  | "lcm" =>
    p.byPlace
    let ns ← p.args.mapM (Measure.index e)
    pure (.int (ns.foldl (fun g n => Nat.lcm g n.natAbs) (1 : Nat) : Nat))
  | "prod" =>
    let given ← Passed.fill { p with args := p.args.drop 1 } ["start"] 0 0
    if p.args.isEmpty then
      Exec.typeError "prod() takes exactly 1 positional argument (0 given)"
    (← Iterate.collect e (p.arg 0)).foldlM (Operate.binary e .mult)
      ((given.getD 0 none).getD (.int 1))
  | name =>
    match smooth.lookup name with
    | some f => do real e f (name == "atanh") (← p.one)
    | none => Method.unsupported p.full

end Exemplar.Machine.Mathematics
