import Exemplar.Decimal.Binary64
import Exemplar.Decimal.Numeral
import Exemplar.Json.Basic
import Exemplar.Text.Quoted

/-
  Data: the values that literals stand for, built from the scalars that a choice can list.
  Dictionaries keep the order in which keys first came; a later equal key overwrites the value only.
  Numbers and truth values are equal across their types, and lists and dictionaries cannot be keys.

  Documents as data: the values that they stand for, their text for people, and the words for their
  types.
-/

namespace Exemplar

inductive Scalar
  | none
  | bool (b : Bool)
  | int (n : Int)
  | float (x : Binary64)
  | str (s : String)
  deriving DecidableEq, Inhabited

namespace Scalar

/-- The scalar as it is written in source text; infinities and no number by their words. -/
def quoted : Scalar → String
  | .none => "None"
  | .bool b => if b then "True" else "False"
  | .int n => toString n
  | .float x => Decimal.floatText x
  | .str s => Text.quote s

/-- Whether the scalar is an integer with too many digits to be written. -/
def isLong : Scalar → Bool
  | .int n => Decimal.isLong n
  | _ => false

end Scalar

inductive Datum
  | scalar (s : Scalar)
  | list (items : List Datum)
  | tuple (items : List Datum)
  | dict (entries : List (Datum × Datum))
  deriving Inhabited

namespace Scalar

/-- The exact value of a number or truth value: an integer, or a double that is none. -/
def number? : Scalar → Option (Int ⊕ Binary64)
  | .bool b => some (.inl (if b then 1 else 0))
  | .int n => some (.inl n)
  | .float x => some (if x.isInteger then .inl x.truncate else .inr x)
  | _ => Option.none

/-- Equality as dictionaries use it. -/
def equal (a b : Scalar) : Bool :=
  match a.number?, b.number? with
  | some (.inl m), some (.inl n) => m == n
  | some (.inr x), some (.inr y) => !x.isNaN && x == y
  | some _, _ => false
  | _, some _ => false
  | _, _ => a == b

end Scalar

namespace Datum

mutual

def equal : Datum → Datum → Bool
  | .scalar a, .scalar b => a.equal b
  | .list xs, .list ys => equalAll xs ys
  | .tuple xs, .tuple ys => equalAll xs ys
  | _, _ => false

def equalAll : List Datum → List Datum → Bool
  | [], [] => true
  | x :: xs, y :: ys => equal x y && equalAll xs ys
  | _, _ => false

end

mutual

/-- The word for the type of the first part that cannot be a key, if any. -/
def unhashable? : Datum → Option String
  | .scalar _ => none
  | .list _ => some "list"
  | .tuple items => unhashableAmong? items
  | .dict _ => some "dict"

def unhashableAmong? : List Datum → Option String
  | [] => none
  | x :: xs => (unhashable? x).or (unhashableAmong? xs)

end

/-- Sets the value of a key. -/
def put (entries : List (Datum × Datum)) (key value : Datum) : List (Datum × Datum) :=
  match entries with
  | [] => [(key, value)]
  | (k, v) :: r => if equal k key then (k, value) :: r else (k, v) :: put r key value

mutual

/-- The datum as it is written in source text. -/
def quoted : Datum → String
  | .scalar s => s.quoted
  | .list items => "[" ++ ", ".intercalate (quotedAll items) ++ "]"
  | .tuple [x] => "(" ++ quoted x ++ ",)"
  | .tuple items => "(" ++ ", ".intercalate (quotedAll items) ++ ")"
  | .dict entries => "\x7b" ++ ", ".intercalate (quotedEntries entries) ++ "\x7d"

def quotedAll : List Datum → List String
  | [] => []
  | x :: xs => quoted x :: quotedAll xs

def quotedEntries : List (Datum × Datum) → List String
  | [] => []
  | (k, v) :: es => (quoted k ++ ": " ++ quoted v) :: quotedEntries es

end

mutual

/-- Whether some part is an integer with too many digits to be written. -/
def holdsLong : Datum → Bool
  | .scalar s => s.isLong
  | .list items => anyHoldsLong items
  | .tuple items => anyHoldsLong items
  | .dict entries => anyEntryHoldsLong entries

def anyHoldsLong : List Datum → Bool
  | [] => false
  | x :: xs => holdsLong x || anyHoldsLong xs

def anyEntryHoldsLong : List (Datum × Datum) → Bool
  | [] => false
  | (k, v) :: es => holdsLong k || holdsLong v || anyEntryHoldsLong es

end

/-- The datum as source text, unless an integer in it is too long. -/
def text (d : Datum) : Except Raised String :=
  if d.holdsLong then .error Decimal.longInteger else .ok d.quoted

end Datum

/-! ## Documents -/

namespace Json

mutual

/-- The value that a document stands for. -/
def toDatum : Json → Datum
  | .null => .scalar .none
  | .bool b => .scalar (.bool b)
  | .int n => .scalar (.int n)
  | .float x => .scalar (.float x)
  | .str s => .scalar (.str s)
  | .arr items => .list (itemData items)
  | .obj fields => .dict (fieldData fields)

def itemData : List Json → List Datum
  | [] => []
  | x :: xs => toDatum x :: itemData xs

def fieldData : List (String × Json) → List (Datum × Datum)
  | [] => []
  | (k, x) :: xs => (.scalar (.str k), toDatum x) :: fieldData xs

end

/-- A document as people read it: a text as it is, anything else as a quoted value. -/
def plain : Json → String
  | .str s => s
  | j => j.toDatum.quoted

/-- The word for the type of a document's value. -/
def typeWord : Json → String
  | .null => "NoneType"
  | .bool _ => "bool"
  | .int _ => "int"
  | .float _ => "float"
  | .str _ => "str"
  | .arr _ => "list"
  | .obj _ => "dict"

end Json

end Exemplar
