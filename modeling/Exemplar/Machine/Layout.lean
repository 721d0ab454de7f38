import Exemplar.Decimal.Binary64
import Exemplar.Decimal.Numeral
import Exemplar.Machine.Number
import Exemplar.Text.Cased
import Exemplar.Text.CharSet

/-
  Formats of texts and numbers: width, filling, alignment, sign, groups of digits, places and
  notation. A format is read from a text, and what it does not allow for a kind of value is refused.
-/

namespace Exemplar.Machine

/-- What a format asks for. -/
structure Layout where
  fill : Char := ' '
  align : Char := '>'
  sign : Option Char := none
  /-- A zero never has a minus sign. -/
  unsignedZero : Bool := false
  alternate : Bool := false
  width : Option Nat := none
  grouping : Option Char := none
  precision : Option Nat := none
  kind : Option Char := none

namespace Layout

/-! ### Reading -/

def isAlign (c : Char) : Bool := c == '<' || c == '>' || c == '=' || c == '^'

def isSign (c : Char) : Bool := c == '+' || c == '-' || c == ' '

/-- The number at the front of a text, if there is one, and what follows. -/
def splitNumber (s : List Char) : Except Raised (Option Nat × List Char) :=
  let digit (c : Char) : Bool := c.isDigit || (Text.digitValue? c).isSome
  let ds := s.takeWhile digit
  let value (c : Char) : Nat := if c.isDigit then c.toNat - 48 else (Text.digitValue? c).getD 0
  let n := ds.foldl (fun n c => 10 * n + value c) 0
  if ds.isEmpty then .ok (none, s)
  else if 0x7fffffffffffffff < n then
    .error (.valueError "Too many decimal digits in format string")
  else .ok (some n, s.dropWhile digit)

/-- Takes a character off the front if it is of a kind. -/
def takeIf (p : Char → Bool) : List Char → Option Char × List Char
  | c :: r => if p c then (some c, r) else (none, c :: r)
  | [] => (none, [])

/-- The alignment with the character that fills up, if they are given, and what follows. -/
def splitAlign : List Char → Option Char × Option Char × List Char
  | c :: a :: r =>
    if isAlign a then (some c, some a, r)
    else if isAlign c then (none, some c, a :: r)
    else (none, none, c :: a :: r)
  | [c] => if isAlign c then (none, some c, []) else (none, none, [c])
  | [] => (none, none, [])

/-- A character in messages. -/
def shownKind (c : Char) : String :=
  if 32 < c.toNat && c.toNat < 128 then String.singleton c
  else "\\x" ++ String.ofList (Nat.toDigits 16 c.toNat)

/-- Refuses groups of digits where the kind of number has none; `usual` is the kind where none is
asked for. -/
def checkGrouping (usual : Option Char) (l : Layout) : Except Raised Layout :=
  match l.grouping, l.kind.or usual with
  | none, _ | _, none => .ok l
  | some g, some k =>
    if ['d', 'e', 'f', 'g', 'E', 'G', '%', 'F'].contains k then .ok l
    else if g == '_' && ['b', 'o', 'x', 'X'].contains k then .ok l
    else
      .error (.valueError ("Cannot specify '" ++ String.singleton g ++ "' with '" ++ shownKind k ++
        "'."))

/-- The layout that a text asks for, for values of a named type that are aligned as given. -/
def read (text typeName : String) (natural : Char) : Except Raised Layout := do
  let s := text.toList
  let (fill, align, s) := splitAlign s
  let (sign, s) := takeIf isSign s
  let (zero, s) := takeIf (· == 'z') s
  let (alternate, s) := takeIf (· == '#') s
  let (padding, s) := if fill.isNone then takeIf (· == '0') s else (none, s)
  let align := match align, padding with
    | some a, _ => a
    | none, some _ => if natural == '>' then '=' else natural
    | none, none => natural
  let (width, s) ← splitNumber s
  let (comma, s) := takeIf (· == ',') s
  let (under, s) := takeIf (· == '_') s
  let both : Raised := .valueError "Cannot specify both ',' and '_'."
  if comma.isSome && under.isSome then throw both
  if under.isSome && s.head? == some ',' then throw both
  let (precision, s) ← match s with
    | '.' :: r => do
      let (n, r) ← splitNumber r
      if n.isNone then throw (.valueError "Format specifier missing precision")
      pure (n, r)
    | s => pure (none, s)
  match s with
  | _ :: _ :: _ =>
    throw (.valueError ("Invalid format specifier '" ++ text ++ "' for object of type '" ++
      typeName ++ "'"))
  | s =>
    checkGrouping (if natural == '<' then some 's' else none)
      { fill := (fill.or (padding.map fun _ => '0')).getD ' ', align := align, sign := sign,
        unsignedZero := zero.isSome, alternate := alternate.isSome, width := width,
        grouping := comma.or under, precision := precision, kind := s.head? }

/-! ### Filling up -/

/-- Fills a text up to the width; `head` is the sign and mark, behind which `=` fills. -/
def pad (l : Layout) (head body : List Char) : String :=
  let missing := l.width.getD 0 - (head.length + body.length)
  let fill (n : Nat) : List Char := List.replicate n l.fill
  String.ofList (match l.align with
    | '<' => head ++ body ++ fill missing
    | '^' => fill (missing / 2) ++ head ++ body ++ fill (missing - missing / 2)
    | '=' => head ++ fill missing ++ body
    | _ => fill missing ++ head ++ body)

/-- Digits from the right in groups of a size, with zeros in front up to a least width. -/
def groupDigits (mark : Char) (size : Nat) (ds : List Char) (least : Nat) : List Char :=
  -- Each turn takes one group off the right end.
  let rec go : Nat → List Char → Nat → List Char
    | 0, _, _ => []
    | n + 1, ds, least =>
      let len := min size (max (max ds.length least) 1)
      let group := ds.take len
      let group := group ++ List.replicate (len - group.length) '0'
      let rest := ds.drop len
      if rest.isEmpty && least ≤ len then group
      else group ++ mark :: go n rest (least - len - 1)
  (go (ds.length + least + 1) ds.reverse least).reverse

/-- The whole part of a number, with zeros and marks as asked for; `other` characters stand around
it. -/
def wholePart (l : Layout) (size other : Nat) (ds : List Char) : List Char :=
  let least := if l.fill == '0' && l.align == '=' then l.width.getD 0 - other else 0
  if ds.isEmpty then ds
  else match l.grouping with
    | some mark => groupDigits mark size ds least
    | none => List.replicate (least - ds.length) '0' ++ ds

/-- The sign of a number. -/
def signOf (l : Layout) (negative : Bool) : List Char :=
  if negative then ['-']
  else match l.sign with
    | some '+' => ['+']
    | some ' ' => [' ']
    | _ => []

def unknownKind (k : Char) (typeName : String) : Raised :=
  .valueError ("Unknown format code '" ++ shownKind k ++ "' for object of type '" ++ typeName ++
    "'")

/-! ### Texts -/

/-- A text in a layout. -/
def text (l : Layout) (typeName s : String) : Except Raised String := do
  let refuse (what : String) : Except Raised String :=
    .error (.valueError (what ++ " not allowed in string format specifier"))
  match l.kind with
  | none | some 's' =>
    if l.sign == some ' ' then refuse "Space"
    else if l.sign.isSome then refuse "Sign"
    else if l.unsignedZero then refuse "Negative zero coercion (z)"
    else if l.alternate then refuse "Alternate form (#)"
    else if l.align == '=' then refuse "'=' alignment"
    else
      let cs := match l.precision with
        | some n => s.toList.take n
        | none => s.toList
      .ok (l.pad [] cs)
  | some k => .error (unknownKind k typeName)

/-! ### Doubles -/

open Decimal in
/-- The digits of a finite size in a notation: `e` with an exponent, `f` without, `g` as fits the
places, `r` the fewest that read back. With `alternate` the point and the zeros behind it stay; with
`pointed` a number without a part behind the point gets one. -/
def digits (x : Binary64) (shape : Char) (places : Nat) (alternate pointed : Bool) :
    List Char :=
  let (num, den) := x.magnitude
  let mark (part : List Char) : List Char :=
    if part.isEmpty && !alternate then [] else '.' :: part
  let withExponent (d : Digits) : List Char :=
    d.digits.take 1 ++ mark d.digits.tail ++ 'e' :: exponentText (d.point - 1)
  let withoutExponent (d : Digits) : List Char :=
    let (whole, part) := positional d
    if part.isEmpty && pointed then whole ++ ['.', '0'] else whole ++ mark part
  match shape with
  | 'e' =>
    withExponent
      (if x.isZero then ⟨zeros (places + 1), 1⟩ else rounded num den (places + 1))
  | 'f' =>
    let ds := natDigits (Binary64.roundQuotient (num * Nat.pow 10 places) den)
    let ds := zeros (places + 1 - ds.length) ++ ds
    ds.take (ds.length - places) ++ mark (ds.drop (ds.length - places))
  | 'g' =>
    let n := max places 1
    let d : Digits := if x.isZero then ⟨zeros n, 1⟩ else rounded num den n
    let d : Digits :=
      if alternate then d
      else if x.isZero then ⟨['0'], 1⟩
      else ⟨dropTrailingZeros d.digits, d.point⟩
    let most : Int := if pointed then (n : Int) - 1 else n
    if d.point ≤ -4 || most < d.point then withExponent d else withoutExponent d
  | _ =>
    let d : Digits := if x.isZero then ⟨['0'], 1⟩ else shortest x
    if d.point ≤ -4 || 16 < d.point then withExponent d else withoutExponent d

/-- Whether only zeros stand in front of an exponent. -/
def isNothing (s : List Char) : Bool :=
  (s.takeWhile (· != 'e')).all fun c => c == '0' || c == '.'

/-- A double without a sign in a layout, with whether it has a minus sign. -/
def number (l : Layout) (x : Binary64) (pointed : Bool) : List Char × Bool :=
  let k := l.kind.getD 'r'
  let lower := k.toLower
  let value := if k == '%' then x.mul (.ofInt 100) else x
  let shape := match lower with
    | '%' => 'f'
    | 'n' => 'g'
    | 'r' => if l.precision.isSome then 'g' else 'r'
    | c => c
  let body :=
    if value.isNaN then ['n', 'a', 'n']
    else if value.isInfinite then ['i', 'n', 'f']
    else digits value.abs shape (l.precision.getD 6) l.alternate (pointed && k == 'r')
  let negative := value.negative && !value.isNaN &&
    !(l.unsignedZero && value.isFinite && isNothing body)
  (if k == 'E' || k == 'F' || k == 'G' then body.map Char.toUpper else body, negative)

def doubleKinds : List Char := ['e', 'E', 'f', 'F', 'g', 'G', 'n']

/-- A double in a layout. -/
def float (l : Layout) (typeName : String) (x : Binary64) : Except Raised String :=
  if 0x7fffffff < l.precision.getD 0 then .error (.valueError "precision too big") else
  match l.kind with
  | some k =>
    if doubleKinds.contains k || k == '%' then .ok laid else .error (unknownKind k typeName)
  | none => .ok laid
where
  laid : String :=
    let (body, negative) := l.number x true
    let body := if l.kind == some '%' then body ++ ['%'] else body
    let head := l.signOf negative
    let whole := body.takeWhile (·.isDigit)
    let rest := body.dropWhile (·.isDigit)
    l.pad head (l.wholePart 3 (head.length + rest.length) whole ++ rest)

/-- A complex number in a layout. -/
def complex (l : Layout) (typeName : String) (re im : Binary64) : Except Raised String := do
  if let some k := l.kind then
    if !doubleKinds.contains k then throw (unknownKind k typeName)
  if l.fill == '0' then
    throw (.valueError "Zero padding is not allowed in complex format specifier")
  if l.align == '=' then
    throw (.valueError "'=' alignment flag is not allowed in complex format specifier")
  let part (l : Layout) (x : Binary64) : List Char :=
    let (body, negative) := l.number x false
    let whole := body.takeWhile (·.isDigit)
    l.signOf negative ++ { l with width := none }.wholePart 3 0 whole ++ body.dropWhile (·.isDigit)
  let isPlain := l.kind.isNone
  if isPlain && re.isZero && !re.negative then pure (l.pad [] (part l im ++ ['j']))
  else
    let body := part l re ++ part { l with sign := some '+' } im ++ ['j']
    pure (l.pad [] (if isPlain then '(' :: body ++ [')'] else body))

/-! ### Integers -/

def decimalDigits (n : Int) : Except Raised (List Char) :=
  if Decimal.isLong n then .error Decimal.longInteger else .ok (Nat.toDigits 10 n.natAbs)

/-- An integer in a layout. -/
def int (l : Layout) (typeName : String) (n : Int) : Except Raised String := do
  let k := l.kind.getD 'd'
  if ['e', 'E', 'f', 'F', 'g', 'G', '%'].contains k then
    return ← l.float typeName (← Numeric.toDouble n)
  if !(['b', 'c', 'd', 'o', 'x', 'X', 'n'].contains k) then throw (unknownKind k typeName)
  if l.precision.isSome then
    throw (.valueError "Precision not allowed in integer format specifier")
  if l.unsignedZero then
    throw (.valueError "Negative zero coercion (z) not allowed in integer format specifier")
  if k == 'c' then
    if l.sign.isSome then
      throw (.valueError "Sign not allowed with integer format specifier 'c'")
    if l.alternate then
      throw (.valueError "Alternate form (#) not allowed with integer format specifier 'c'")
    if n < -0x8000000000000000 || 0x7fffffffffffffff < n then
      throw ⟨"OverflowError", "Python int too large to convert to C long"⟩
    if n < 0 || 0x10ffff < n then throw ⟨"OverflowError", "%c arg not in range(0x110000)"⟩
    return l.pad [] [Char.ofNat n.toNat]
  let (base, mark) : Nat × List Char := match k with
    | 'b' => (2, ['0', 'b'])
    | 'o' => (8, ['0', 'o'])
    | 'x' => (16, ['0', 'x'])
    | 'X' => (16, ['0', 'X'])
    | _ => (10, [])
  let ds ← if base == 10 then decimalDigits n else pure (Nat.toDigits base n.natAbs)
  let ds := if k == 'X' then ds.map Char.toUpper else ds
  let head := l.signOf (n < 0) ++ if l.alternate then mark else []
  return l.pad head (l.wholePart (if base == 10 then 3 else 4) head.length ds)

end Layout

end Exemplar.Machine
