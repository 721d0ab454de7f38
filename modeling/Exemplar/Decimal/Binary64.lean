/-
  Double-precision numbers by their 64 bits. A finite number is `± m · 2 ^ q` with natural `m`;
  `ofRatio` rounds a quotient of naturals to the nearest double, ties to the even significand.

  Decimal digits of a double. `shortest` takes the fewest digits that read back as the same
  number: for one digit, two digits and so on it tests the two neighbours of the number on that
  decimal grid against the interval of reals that round to it. `rounded` takes a fixed count.

  The text of complex numbers, and the exact size of numbers, by which an integer and a double are
  the same number.
-/

namespace Exemplar

/-- A double-precision number, told apart by its bits. -/
structure Binary64 where
  bits : UInt64
  deriving DecidableEq, Inhabited, Hashable

namespace Binary64

def ofFloat (x : Float) : Binary64 := ⟨x.toBits⟩

def toFloat (x : Binary64) : Float := Float.ofBits x.bits

/-- The sign bit is set. -/
def negative (x : Binary64) : Bool := decide (Nat.pow 2 63 ≤ x.bits.toNat)

/-- The biased exponent field. -/
def exponentField (x : Binary64) : Nat := x.bits.toNat / Nat.pow 2 52 % Nat.pow 2 11

/-- The fraction field. -/
def fraction (x : Binary64) : Nat := x.bits.toNat % Nat.pow 2 52

def isNaN (x : Binary64) : Bool := x.exponentField == 2047 && x.fraction != 0

def isInfinite (x : Binary64) : Bool := x.exponentField == 2047 && x.fraction == 0

def isFinite (x : Binary64) : Bool := x.exponentField != 2047

/-- The `m` of `± m · 2 ^ q`. -/
def significand (x : Binary64) : Nat :=
  if x.exponentField == 0 then x.fraction else x.fraction + Nat.pow 2 52

/-- The `q` of `± m · 2 ^ q`. -/
def exponent (x : Binary64) : Int := (Nat.max x.exponentField 1 : Int) - 1075

def isZero (x : Binary64) : Bool := x.exponentField == 0 && x.fraction == 0

/-- The size of a finite number as a quotient of naturals. -/
def magnitude (x : Binary64) : Nat × Nat :=
  match x.exponent with
  | .ofNat k => (x.significand * Nat.pow 2 k, 1)
  | .negSucc k => (x.significand, Nat.pow 2 (k + 1))

/-- The number with the given sign and the other 63 bits. -/
def ofParts (negative : Bool) (rest : Nat) : Binary64 :=
  ⟨UInt64.ofNat (rest + if negative then Nat.pow 2 63 else 0)⟩

def zero : Binary64 := ⟨0⟩

def infinity (negative : Bool) : Binary64 := ofParts negative (2047 * Nat.pow 2 52)

def nan : Binary64 := ⟨0x7ff8000000000000⟩

def neg (x : Binary64) : Binary64 := ofParts (!x.negative) (x.bits.toNat % Nat.pow 2 63)

/-- The nearest natural to `num / den`, ties to the even one. -/
def roundQuotient (num den : Nat) : Nat :=
  let q := num / den
  let r := num % den
  if 2 * r < den then q
  else if den < 2 * r then q + 1
  else if q % 2 == 0 then q else q + 1

/-- The largest `k` with `2 ^ k ≤ num / den`, for positive `num` and `den`. -/
def floorLog2 (num den : Nat) : Int :=
  let guess : Int := (Nat.log2 num : Int) - (Nat.log2 den : Int)
  let atLeast : Bool := match guess with
    | .ofNat k => den * Nat.pow 2 k ≤ num
    | .negSucc k => den ≤ num * Nat.pow 2 (k + 1)
  if atLeast then guess else guess - 1

/-- The double nearest to `± num / den`, ties to the even significand; too large a size gives
infinity. -/
def ofRatio (negative : Bool) (num den : Nat) : Binary64 :=
  if num == 0 then ofParts negative 0 else
  let q : Int := max (floorLog2 num den - 52) (-1074)
  let m := match q with
    | .ofNat k => roundQuotient num (den * Nat.pow 2 k)
    | .negSucc k => roundQuotient (num * Nat.pow 2 (k + 1)) den
  -- A significand of `2 ^ 53` carries into the exponent field by itself.
  let rest := (q + 1074).toNat * Nat.pow 2 52 + m
  if 2047 * Nat.pow 2 52 ≤ rest then infinity negative else ofParts negative rest

def ofInt (n : Int) : Binary64 := ofRatio (n < 0) n.natAbs 1

/-- The double nearest to `± digits · 10 ^ exponent`. -/
def ofDecimal (negative : Bool) (digits : Nat) (exponent : Int) : Binary64 :=
  if digits == 0 then ofParts negative 0 else
  match exponent with
  | .ofNat k => if 400 ≤ k then infinity negative else ofRatio negative (digits * Nat.pow 10 k) 1
  | .negSucc k =>
    -- So small a number lies below half of the least positive double.
    if (Nat.log2 digits) + 2000 ≤ k then ofParts negative 0
    else ofRatio negative digits (Nat.pow 10 (k + 1))

/-- The integer part of a finite number, towards zero. -/
def truncate (x : Binary64) : Int :=
  let (num, den) := x.magnitude
  if x.negative then -((num / den : Nat) : Int) else ((num / den : Nat) : Int)

/-- The greatest integer at or below a finite number. -/
def floor (x : Binary64) : Int :=
  let (num, den) := x.magnitude
  if x.negative then -(((num + den - 1) / den : Nat) : Int) else ((num / den : Nat) : Int)

/-- The least integer at or above a finite number. -/
def ceil (x : Binary64) : Int := -(x.neg.floor)

/-- A finite number without a fractional part. -/
def isInteger (x : Binary64) : Bool :=
  x.isFinite && (let (num, den) := x.magnitude; num % den == 0)

end Binary64

end Exemplar

namespace Exemplar.Decimal

/-- Digits `d₁ d₂ … dₙ` read as a natural number, and the place of the point: the number is
`0.d₁d₂…dₙ · 10 ^ point`. -/
structure Digits where
  digits : List Char
  point : Int
  deriving DecidableEq

/-- `10 ^ k` as a quotient. -/
def powerOfTen (k : Int) : Nat × Nat :=
  match k with
  | .ofNat k => (Nat.pow 10 k, 1)
  | .negSucc k => (1, Nat.pow 10 (k + 1))

/-- The digits of a natural number. -/
def natDigits (n : Nat) : List Char := Nat.toDigits 10 n

/-- The `k` with `10 ^ (k - 1) ≤ num / den < 10 ^ k`, found from a guess at most `fuel` steps too
low. -/
def decimalPlace (num den : Nat) : Nat → Int → Int
  | 0, k => k
  | fuel + 1, k =>
    let (a, b) := powerOfTen k
    if num * b < a * den then k else decimalPlace num den fuel (k + 1)

/-- The decimal place of a positive quotient. -/
def placeOf (num den : Nat) : Int :=
  let log2 := Binary64.floorLog2 num den
  decimalPlace num den 4 (Int.fdiv (log2 * 30103) 100000 - 1)

/-- The interval of reals that round to a double: its ends over a common denominator, and whether
the ends belong to it. -/
structure Interval where
  low : Nat
  value : Nat
  high : Nat
  den : Nat
  closed : Bool

def intervalOf (x : Binary64) : Interval :=
  let m := x.significand
  let (num, den) := x.magnitude
  -- Below a power of two the neighbours lie twice as close.
  let narrow := m == Nat.pow 2 52 && 1 < x.exponentField
  let unit := num / m
  ⟨if narrow then 4 * num - unit else 4 * num - 2 * unit, 4 * num, 4 * num + 2 * unit, 4 * den,
    m % 2 == 0⟩

def Interval.contains (i : Interval) (num den : Nat) : Bool :=
  if i.closed then i.low * den ≤ num * i.den && num * i.den ≤ i.high * den
  else i.low * den < num * i.den && num * i.den < i.high * den

/-- The digits of the neighbour of the value on the grid of step `10 ^ (place - n)`, if one lies in
the interval; of two the nearer, and of two equally near the even one. -/
def Interval.neighbour? (i : Interval) (place : Int) (n : Nat) : Option Nat :=
  let (a, b) := powerOfTen (place - n)
  -- The grid point `d` is `d · a / b`.
  let d := i.value * b / (i.den * a)
  let lower := i.contains (d * a) b
  let upper := i.contains ((d + 1) * a) b
  if lower && upper then
    let below := i.value * b - d * a * i.den
    let above := (d + 1) * a * i.den - i.value * b
    some (if below < above || (below == above && d % 2 == 0) then d else d + 1)
  else if lower then some d
  else if upper then some (d + 1)
  else none

/-- The first grid with a hit, from `n` digits on. -/
def Interval.search (i : Interval) (place : Int) : Nat → Nat → Nat × Nat
  | 0, n => (i.value * (powerOfTen (place - n)).2 / (i.den * (powerOfTen (place - n)).1), n)
  | fuel + 1, n =>
    match i.neighbour? place n with
    | some d => (d, n)
    | none => i.search place fuel (n + 1)

/-- Drops zeros from the end. -/
def dropTrailingZeros (ds : List Char) : List Char :=
  (ds.reverse.dropWhile (· == '0')).reverse

/-- The fewest digits that read back as the positive finite double `x`. The last grid of the search
is so fine that `x` itself lies on it. -/
def shortest (x : Binary64) : Digits :=
  let i := intervalOf x
  let place := placeOf i.value i.den
  let (d, n) := i.search place (place + 1074).toNat 1
  let ds := natDigits d
  ⟨dropTrailingZeros ds, place + (ds.length : Int) - n⟩

/-- The positive quotient rounded to `n` digits, ties to the even digit. -/
def rounded (num den n : Nat) : Digits :=
  let place := placeOf num den
  let (a, b) := powerOfTen (place - n)
  let ds := natDigits (Binary64.roundQuotient (num * b) (den * a))
  if n < ds.length then ⟨ds.take n, place + 1⟩ else ⟨ds, place⟩

/-- `n` copies of the digit zero. -/
def zeros (n : Nat) : List Char := List.replicate n '0'

/-- Digits in positional notation, with at least one digit before the point. -/
def positional (d : Digits) : List Char × List Char :=
  match d.point with
  | .ofNat k =>
    if d.digits.length ≤ k then (d.digits ++ zeros (k - d.digits.length), [])
    else if k == 0 then (['0'], d.digits)
    else (d.digits.take k, d.digits.drop k)
  | .negSucc k => (['0'], zeros (k + 1) ++ d.digits)

/-- The exponent with its sign and at least two digits. -/
def exponentText (e : Int) : List Char :=
  let ds := natDigits e.natAbs
  (if e < 0 then '-' else '+') :: (if ds.length < 2 then '0' :: ds else ds)

/-- Digits in scientific notation. -/
def scientific (d : Digits) : List Char :=
  let tail := d.digits.tail
  d.digits.take 1 ++ (if tail.isEmpty then [] else '.' :: tail) ++ 'e' :: exponentText (d.point - 1)

/-- The text of a double: the fewest digits that read back, positional for sizes from `10 ^ -4` to
below `10 ^ 16` and always with a point, else scientific. -/
def floatText (x : Binary64) : String :=
  let sign := if x.negative then ['-'] else []
  if x.isNaN then "nan"
  else if x.isInfinite then String.ofList (sign ++ ['i', 'n', 'f'])
  else if x.isZero then String.ofList (sign ++ ['0', '.', '0'])
  else
    let d := shortest x
    let body :=
      if -4 < d.point && d.point ≤ 16 then
        let (whole, part) := positional d
        whole ++ '.' :: (if part.isEmpty then ['0'] else part)
      else scientific d
    String.ofList (sign ++ body)

/-- The text of a double with at most `n` significant digits and no trailing zeros: positional while
the exponent lies from -4 to below `n`. -/
def generalText (x : Binary64) (n : Nat) : String :=
  let sign := if x.negative then ['-'] else []
  if x.isNaN then "nan"
  else if x.isInfinite then String.ofList (sign ++ ['i', 'n', 'f'])
  else if x.isZero then String.ofList (sign ++ ['0'])
  else
    let n := Nat.max n 1
    let (num, den) := x.magnitude
    let d := rounded num den n
    let short : Digits := ⟨dropTrailingZeros d.digits, d.point⟩
    let body :=
      if -4 < d.point && d.point ≤ n then
        let (whole, part) := positional short
        whole ++ (if part.isEmpty then [] else '.' :: part)
      else scientific short
    String.ofList (sign ++ body)

/-- The text of a double with exactly `places` digits after the point. -/
def fixedText (x : Binary64) (places : Nat) : String :=
  let sign := if x.negative then ['-'] else []
  if x.isNaN then "nan"
  else if x.isInfinite then String.ofList (sign ++ ['i', 'n', 'f'])
  else
    let (num, den) := x.magnitude
    let ds := natDigits (Binary64.roundQuotient (num * Nat.pow 10 places) den)
    let ds := zeros (places + 1 - ds.length) ++ ds
    let whole := ds.take (ds.length - places)
    let part := ds.drop (ds.length - places)
    String.ofList (sign ++ whole ++ (if part.isEmpty then [] else '.' :: part))

/-- The text of a double with one digit before the point, `places` after it and an exponent. -/
def scientificText (x : Binary64) (places : Nat) : String :=
  let sign := if x.negative then ['-'] else []
  if x.isNaN then "nan"
  else if x.isInfinite then String.ofList (sign ++ ['i', 'n', 'f'])
  else
    let (num, den) := x.magnitude
    let d : Digits := if x.isZero then ⟨zeros (places + 1), 1⟩ else rounded num den (places + 1)
    let part := d.digits.tail
    String.ofList (sign ++ d.digits.take 1 ++ (if part.isEmpty then [] else '.' :: part) ++
      'e' :: exponentText (d.point - 1))

/-- A double without the part after the point if that is zero. -/
def bareText (x : Binary64) : String :=
  let s := floatText x
  if s.endsWith ".0" then (s.dropEnd 2).toString else s

/-- The text of a complex number; a real part that is zero is left out. -/
def complexText (re im : Binary64) : String :=
  if re.isZero && !re.negative then bareText im ++ "j"
  else
    let text := bareText im
    "(" ++ bareText re ++ (if text.startsWith "-" then text else "+" ++ text) ++ "j)"

end Exemplar.Decimal
