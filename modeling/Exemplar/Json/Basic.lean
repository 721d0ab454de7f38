import Exemplar.Decimal.Binary64

/-
  JSON documents and their text. Integers and doubles are kept apart, fields keep their order, and
  the text may escape everything beyond printable ASCII or nothing beyond what the format demands.
-/

namespace Exemplar

/-- A JSON document. -/
inductive Json
  | null
  | bool (b : Bool)
  | int (n : Int)
  | float (x : Binary64)
  | str (s : String)
  | arr (items : List Json)
  | obj (fields : List (String × Json))
  deriving Inhabited

namespace Json

def isNull : Json → Bool
  | .null => true
  | _ => false

/-- The digit of value `n` in lower-case hexadecimal. -/
def hexChar (n : Nat) : Char :=
  if n < 10 then Char.ofNat (48 + n) else Char.ofNat (87 + n)

/-- Four hexadecimal digits. -/
def hex4 (n : Nat) : List Char :=
  [hexChar (n / 4096 % 16), hexChar (n / 256 % 16), hexChar (n / 16 % 16), hexChar (n % 16)]

/-- `n` as a `\u` escape; above the first plane as two surrogates. -/
def unicodeEscape (n : Nat) : List Char :=
  if n < 0x10000 then '\\' :: 'u' :: hex4 n
  else
    let v := n - 0x10000
    ('\\' :: 'u' :: hex4 (0xd800 + v / 0x400)) ++ ('\\' :: 'u' :: hex4 (0xdc00 + v % 0x400))

/-- One character of a text, escaped where the format or `ascii` asks for it. -/
def escapeChar (ascii : Bool) (c : Char) : List Char :=
  if c == '"' then ['\\', '"']
  else if c == '\\' then ['\\', '\\']
  else if c == '\n' then ['\\', 'n']
  else if c == '\r' then ['\\', 'r']
  else if c == '\t' then ['\\', 't']
  else if c == '\x08' then ['\\', 'b']
  else if c == '\x0c' then ['\\', 'f']
  else if c.toNat < 32 then unicodeEscape c.toNat
  else if ascii && 127 ≤ c.toNat then unicodeEscape c.toNat
  else [c]

/-- A text between quotes. -/
def writeString (ascii : Bool) (s : String) : List Char :=
  '"' :: s.toList.flatMap (escapeChar ascii) ++ ['"']

/-- The text of a double, with words for infinity and no number. -/
def writeFloat (x : Binary64) : List Char :=
  if x.isNaN then "NaN".toList
  else if x.isInfinite then (if x.negative then "-Infinity" else "Infinity").toList
  else (Decimal.floatText x).toList

mutual

/-- The text of a document on one line, with a blank after each comma and colon. -/
def write (ascii : Bool) : Json → List Char
  | .null => "null".toList
  | .bool b => (if b then "true" else "false").toList
  | .int n => (toString n).toList
  | .float x => writeFloat x
  | .str s => writeString ascii s
  | .arr items => '[' :: writeItems ascii items ++ [']']
  | .obj fields => '\x7b' :: writeFields ascii fields ++ ['\x7d']

def writeItems (ascii : Bool) : List Json → List Char
  | [] => []
  | [x] => write ascii x
  | x :: xs => write ascii x ++ ',' :: ' ' :: writeItems ascii xs

def writeFields (ascii : Bool) : List (String × Json) → List Char
  | [] => []
  | [(k, x)] => writeString ascii k ++ ':' :: ' ' :: write ascii x
  | (k, x) :: xs =>
    writeString ascii k ++ ':' :: ' ' :: write ascii x ++ ',' :: ' ' :: writeFields ascii xs

end

/-- The text of a document with everything beyond printable ASCII escaped. -/
def toAscii (j : Json) : String := String.ofList (write true j)

/-- The text of a document with characters beyond ASCII as they are. -/
def toText (j : Json) : String := String.ofList (write false j)

mutual

/-- How deep arrays and objects nest, where empty ones do not count. -/
def depth : Json → Nat
  | .arr [] | .obj [] => 0
  | .arr items => depthItems items + 1
  | .obj fields => depthFields fields + 1
  | _ => 0

def depthItems : List Json → Nat
  | [] => 0
  | x :: xs => Nat.max (depth x) (depthItems xs)

def depthFields : List (String × Json) → Nat
  | [] => 0
  | (_, x) :: xs => Nat.max (depth x) (depthFields xs)

end

/-- The last field of that name. -/
def field? (name : String) (fields : List (String × Json)) : Option Json :=
  (fields.reverse.find? fun p => p.1 == name).map (·.2)

/-- A field of an object, absent in anything else. -/
def get? (j : Json) (name : String) : Option Json :=
  match j with
  | .obj fields => field? name fields
  | _ => none

/-- A text, or nothing for the null document. -/
def ofOption (s : Option String) : Json := s.elim .null .str

end Json

end Exemplar
