import Exemplar.Json.Basic
import Exemplar.Decimal.Numeral

/-
  Reading JSON. The reader takes the words for infinity and no number besides the standard's
  numbers, refuses control characters inside texts, and says where and why it stopped.
-/

namespace Exemplar.Json

/-- Why a text is no JSON document. -/
inductive Fault
  | expectingValue
  | expectingName
  | expectingColon
  | expectingComma
  | unterminated
  | controlCharacter
  | badEscape
  | badUnicodeEscape
  | extraData
  | byteOrderMark
  | tooManyDigits (count : Nat)
  deriving DecidableEq

def Fault.message : Fault → String
  | .expectingValue => "Expecting value"
  | .expectingName => "Expecting property name enclosed in double quotes"
  | .expectingColon => "Expecting ':' delimiter"
  | .expectingComma => "Expecting ',' delimiter"
  | .unterminated => "Unterminated string starting at"
  | .controlCharacter => "Invalid control character at"
  | .badEscape => "Invalid \\escape"
  | .badUnicodeEscape => "Invalid \\uXXXX escape"
  | .extraData => "Extra data"
  | .byteOrderMark => "Unexpected UTF-8 BOM (decode using utf-8-sig)"
  | .tooManyDigits n =>
    "Exceeds the limit (4300 digits) for integer string conversion: value has " ++ toString n ++
      " digits; use sys.set_int_max_str_digits() to increase the limit"

/-- A fault and how many characters were left where it arose. -/
structure Failure where
  fault : Fault
  left : Nat
  deriving DecidableEq

/-- A part read from the front of a text, and what is left. -/
abbrev Read (α : Type) := Except Failure (α × List Char)

def isSpace (c : Char) : Bool := c == ' ' || c == '\t' || c == '\n' || c == '\r'

def skipSpace (s : List Char) : List Char := s.dropWhile isSpace

def fail {α : Type} (fault : Fault) (rest : List Char) : Read α := .error ⟨fault, rest.length⟩

def hexValue? (c : Char) : Option Nat :=
  if '0' ≤ c && c ≤ '9' then some (c.toNat - 48)
  else if 'a' ≤ c && c ≤ 'f' then some (c.toNat - 87)
  else if 'A' ≤ c && c ≤ 'F' then some (c.toNat - 55)
  else none

/-- Four hexadecimal digits. -/
def readHex4 : List Char → Option (Nat × List Char)
  | a :: b :: c :: d :: r => do
    let a ← hexValue? a
    let b ← hexValue? b
    let c ← hexValue? c
    let d ← hexValue? d
    some (((a * 16 + b) * 16 + c) * 16 + d, r)
  | _ => none

/-- The character that a one-letter escape stands for. -/
def simpleEscape? : Char → Option Char
  | '"' => some '"'
  | '\\' => some '\\'
  | '/' => some '/'
  | 'b' => some '\x08'
  | 'f' => some '\x0c'
  | 'n' => some '\n'
  | 'r' => some '\r'
  | 't' => some '\t'
  | _ => none

/-- The character of a `\u` escape whose digits come next, two escapes for one beyond the first
plane. -/
def readUnicode (s : List Char) : Option (Char × List Char) := do
  let (n, r) ← readHex4 s
  if 0xd800 ≤ n && n < 0xdc00 then
    match r with
    | '\\' :: 'u' :: r =>
      let (low, r) ← readHex4 r
      if 0xdc00 ≤ low && low < 0xe000 then
        some (Char.ofNat (0x10000 + (n - 0xd800) * 0x400 + (low - 0xdc00)), r)
      else none
    | _ => none
  else if 0xdc00 ≤ n && n < 0xe000 then none
  else some (Char.ofNat n, r)

/-- The rest of a text after its opening quote; `start` characters were left at that quote. -/
def readStringTail (start : Nat) : Nat → List Char → List Char → Read String
  | 0, _, _ => .error ⟨.unterminated, start⟩
  | fuel + 1, done, s =>
    match s with
    | [] => .error ⟨.unterminated, start⟩
    | '"' :: r => .ok (String.ofList done.reverse, r)
    | '\\' :: r =>
      match r with
      | [] => .error ⟨.unterminated, start⟩
      | 'u' :: t =>
        match readUnicode t with
        | some (c, t) => readStringTail start fuel (c :: done) t
        | none => fail .badUnicodeEscape r
      | e :: t =>
        match simpleEscape? e with
        | some c => readStringTail start fuel (c :: done) t
        | none => fail .badEscape s
    | c :: r => if c.toNat < 32 then fail .controlCharacter s
      else readStringTail start fuel (c :: done) r

/-- A number in the standard's notation. -/
def readNumber (s : List Char) : Read Json :=
  let (negative, body) := match s with
    | '-' :: r => (true, r)
    | r => (false, r)
  let whole := match body with
    | '0' :: _ => ['0']
    | r => r.takeWhile Numeral.isDigit
  if whole.isEmpty then fail .expectingValue s else
  let rest := body.drop whole.length
  let (part, rest) := match rest with
    | '.' :: r =>
      let ds := r.takeWhile Numeral.isDigit
      if ds.isEmpty then ([], rest) else (ds, r.drop ds.length)
    | r => ([], r)
  let (power, rest) := match rest with
    | e :: r =>
      if e == 'e' || e == 'E' then
        let (down, t) := Numeral.splitSign r
        let ds := t.takeWhile Numeral.isDigit
        if ds.isEmpty then (none, rest)
        else
          let k : Int := Numeral.ofDigits ds
          (some (if down then -k else k), t.drop ds.length)
      else (none, rest)
    | [] => (none, rest)
  if part.isEmpty && power.isNone then
    if 4300 < whole.length then fail (.tooManyDigits whole.length) s
    else
      let n : Int := Numeral.ofDigits whole
      .ok (.int (if negative then -n else n), rest)
  else
    let scale : Int := power.getD 0 - part.length
    .ok (.float (.ofDecimal negative (Numeral.ofDigits (whole ++ part)) scale), rest)

/-- Drops a word from the front. -/
def word? (w : String) (s : List Char) : Option (List Char) :=
  if w.toList.isPrefixOf s then some (s.drop w.length) else none

/-- A document that is neither array, object nor text. -/
def readScalar (s : List Char) : Read Json :=
  if let some r := word? "null" s then .ok (.null, r)
  else if let some r := word? "true" s then .ok (.bool true, r)
  else if let some r := word? "false" s then .ok (.bool false, r)
  else if let some r := word? "NaN" s then .ok (.float .nan, r)
  else if let some r := word? "Infinity" s then .ok (.float (.infinity false), r)
  else if let some r := word? "-Infinity" s then .ok (.float (.infinity true), r)
  else readNumber s

mutual

/-- One document at the front of the text. Each call takes at least one character or ends, so that
the length of the text bounds the calls. -/
def readValue : Nat → List Char → Except Failure (Json × List Char)
  | 0, s => fail .expectingValue s
  | fuel + 1, s =>
    match s with
    | '"' :: r => do
      let (t, r) ← readStringTail s.length (r.length + 1) [] r
      .ok (.str t, r)
    | '[' :: r =>
      match skipSpace r with
      | ']' :: r => .ok (.arr [], r)
      | r => do
        let (items, r) ← readItems fuel r
        .ok (.arr items, r)
    | '\x7b' :: r =>
      match skipSpace r with
      | '\x7d' :: r => .ok (.obj [], r)
      | r => do
        let (fields, r) ← readFields fuel r
        .ok (.obj fields, r)
    | s => readScalar s

/-- The items of an array up to its closing bracket. -/
def readItems : Nat → List Char → Except Failure ((List Json) × List Char)
  | 0, s => fail .expectingValue s
  | fuel + 1, s => do
    let (x, r) ← readValue fuel s
    match skipSpace r with
    | ']' :: r => .ok ([x], r)
    | ',' :: r => do
      let (xs, r) ← readItems fuel (skipSpace r)
      .ok (x :: xs, r)
    | r => fail .expectingComma r

/-- The fields of an object up to its closing brace. -/
def readFields : Nat → List Char → Except Failure ((List (String × Json)) × List Char)
  | 0, s => fail .expectingName s
  | fuel + 1, s =>
    match s with
    | '"' :: r => do
      let (name, r) ← readStringTail s.length (r.length + 1) [] r
      match skipSpace r with
      | ':' :: r => do
        let (x, r) ← readValue fuel (skipSpace r)
        match skipSpace r with
        | '\x7d' :: r => .ok ([(name, x)], r)
        | ',' :: r => do
          let (xs, r) ← readFields fuel (skipSpace r)
          .ok ((name, x) :: xs, r)
        | r => fail .expectingComma r
      | r => fail .expectingColon r
    | s => fail .expectingName s

end

/-- Reads a text that holds one document and white space around it. -/
def read (s : List Char) : Except Failure Json :=
  match s with
  | '\ufeff' :: _ => .error ⟨.byteOrderMark, s.length⟩
  | _ =>
    match readValue (s.length + 1) (skipSpace s) with
    | .error e => .error e
    | .ok (j, r) =>
      match skipSpace r with
      | [] => .ok j
      | r => .error ⟨.extraData, r.length⟩

/-- The document that a text holds, if any. -/
def read? (s : String) : Option Json := (read s.toList).toOption

/-- What went wrong in the text `s`, with line, column and offset. -/
def Failure.describe (s : List Char) (f : Failure) : String :=
  match f.fault with
  | .tooManyDigits _ => f.fault.message
  | _ =>
    let offset := s.length - f.left
    let before := s.take offset
    let line := before.count '\n' + 1
    let column := (before.reverse.takeWhile (· != '\n')).length + 1
    f.fault.message ++ ": line " ++ toString line ++ " column " ++ toString column ++ " (char " ++
      toString offset ++ ")"

end Exemplar.Json
