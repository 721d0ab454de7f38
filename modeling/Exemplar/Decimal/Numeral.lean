import Exemplar.Decimal.Binary64
import Exemplar.Raised
import Exemplar.Text.CharSet
import Exemplar.Text.Lines

/-
  The length of decimal numerals. An integer with too many digits has no decimal text, and a numeral
  with too many digits is not read.

  Numbers written as text: integers and doubles as people type them, with white space around,
  a sign, digits of any script and single underscores between digits.
-/

namespace Exemplar.Decimal

/-- How many digits an integer may have where it becomes text or is read from it. -/
def maxDigits : Nat := 4300

/-- A number of binary digits that no integer with too many decimal digits falls short of. -/
def shortBits : Nat := 14280

/-- Whether an integer has too many digits to become text. -/
def isLong (n : Int) : Bool :=
  if Nat.log2 n.natAbs < shortBits then false else Nat.pow 10 maxDigits ≤ n.natAbs

def longIntegerMessage : String :=
  "Exceeds the limit (4300 digits) for integer string conversion; " ++
    "use sys.set_int_max_str_digits() to increase the limit"

/-- What is raised where an integer is too long to become text. -/
def longInteger : Raised := .valueError longIntegerMessage

end Exemplar.Decimal

namespace Exemplar.Numeral

open Exemplar.Text

/-- The text in ASCII: digits of other scripts become ASCII digits. -/
def asciiDigits (s : List Char) : List Char :=
  s.map fun c => match digitValue? c with
    | some d => Char.ofNat (48 + d)
    | none => c

def isDigit (c : Char) : Bool := '0' ≤ c && c ≤ '9'

/-- Drops single underscores that stand between digits; refuses any other underscore. -/
def dropUnderscores : List Char → Option (List Char)
  | [] => some []
  | [c] => if c == '_' then none else some [c]
  | c :: '_' :: r =>
    match r with
    | d :: _ => if isDigit c && isDigit d then (dropUnderscores r).map (c :: ·) else none
    | [] => none
  | c :: r => if c == '_' then none else (dropUnderscores r).map (c :: ·)

/-- The sign in front, if any. -/
def splitSign : List Char → Bool × List Char
  | '-' :: r => (true, r)
  | '+' :: r => (false, r)
  | s => (false, s)

/-- The natural number that digits write. -/
def ofDigits (ds : List Char) : Nat := ds.foldl (fun n c => 10 * n + (c.toNat - 48)) 0

/-- An integer in decimal notation. -/
def readInt? (s : List Char) : Option Int := do
  let s := asciiDigits (trim s)
  let (negative, body) := splitSign s
  let ds ← dropUnderscores body
  if ds.isEmpty || !ds.all isDigit then none
  else
    let n : Int := ofDigits ds
    some (if negative then -n else n)

/-- The count of digits in an integer text, underscores and sign apart. -/
def digitCount (s : List Char) : Nat := ((asciiDigits s).filter isDigit).length

/-- An unsigned decimal: digits, an optional part after the point, an optional exponent. -/
def readDecimal? (negative : Bool) (s : List Char) : Option Binary64 :=
  let whole := s.takeWhile isDigit
  let rest := s.dropWhile isDigit
  let (part, rest) := match rest with
    | '.' :: r => (r.takeWhile isDigit, r.dropWhile isDigit)
    | r => ([], r)
  if whole.isEmpty && part.isEmpty then none else
  let digits := ofDigits (whole ++ part)
  let scale : Int := -(part.length : Int)
  match rest with
  | [] => some (.ofDecimal negative digits scale)
  | e :: r =>
    if e == 'e' || e == 'E' then
      let (down, r) := splitSign r
      if r.isEmpty || !r.all isDigit then none
      else
        let k : Int := ofDigits r
        some (.ofDecimal negative digits (scale + if down then -k else k))
    else none

/-- A double: a decimal, or a word for infinity or for no number, in any case. -/
def readFloat? (s : List Char) : Option Binary64 := do
  let s := asciiDigits (trim s)
  let (negative, body) := splitSign s
  let word := String.ofList (body.map Char.toLower)
  if word == "inf" || word == "infinity" then some (.infinity negative)
  else if word == "nan" then some (if negative then .neg .nan else .nan)
  else
    let plain ← dropUnderscores body
    readDecimal? negative plain

end Exemplar.Numeral
