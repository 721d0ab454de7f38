import Exemplar.Syntax.Lexer
import Exemplar.Text.CharName

/-
  What a text between quotes stands for: escapes are undone unless the text is raw. A text that is
  to be formatted first falls into literal parts and fields; nothing in it is refused here, a part
  that breaks the rules is listed as such and ends the list.
-/

namespace Exemplar.Syntax

/-- What is wrong with a field of a formatted text. -/
inductive FieldFault
  /-- Nothing stands before the sign that ends the expression. -/
  | empty (sign : Char)
  | loneBrace
  | nestedTooDeeply
  | backslash
  | comment
  | tooManyBrackets
  | unmatched (c : Char)
  | mismatched (c opening : Char)
  | unterminated
  | missedConversion
  | badConversion (s : List Char)
  | expectingBrace
  deriving DecidableEq

/-- Why a text between quotes stands for nothing. -/
inductive TextFault
  /-- An escape of a text; its places count a character beyond ASCII as ten. -/
  | badEscape (first last : Nat) (reason : String)
  /-- An escape of bytes. -/
  | badByteEscape (place : Nat)
  | wideByte
  | mixed
  | field (f : FieldFault)
  deriving DecidableEq

/-! Escapes -/

/-- How many places a character takes. -/
def escapeWidth (c : Char) : Nat := if c.toNat < 128 then 1 else 10

def escapeWidths (cs : List Char) : Nat := cs.foldr (fun c n => escapeWidth c + n) 0

/-- Up to `n` characters of a class, and the rest. -/
def takeUpTo (digit : Char → Bool) : Nat → List Char → List Char × List Char
  | 0, cs => ([], cs)
  | _ + 1, [] => ([], [])
  | n + 1, c :: r =>
    if digit c then
      let (ds, rest) := takeUpTo digit n r
      (c :: ds, rest)
    else ([], c :: r)

def isOctalDigit (c : Char) : Bool := '0' ≤ c && c ≤ '7'

/-- The character with a number; half of a pair, which no text can hold, becomes the replacement
character. -/
def charOfNumber (n : Nat) : Char :=
  if 0xd800 ≤ n && n < 0xe000 then '\ufffd' else Char.ofNat n

/-- The character that stands for itself or for a control after a backslash. -/
def simpleEscape? : Char → Option Char
  | '\\' => some '\\'
  | '\'' => some '\''
  | '"' => some '"'
  | 'b' => some '\x08'
  | 'f' => some '\x0c'
  | 't' => some '\t'
  | 'n' => some '\n'
  | 'r' => some '\r'
  | 'v' => some '\x0b'
  | 'a' => some '\x07'
  | _ => none

/-- An escape by a fixed count of hexadecimal digits. -/
def hexEscape (place count : Nat) (reason : String) (cs : List Char) :
    Except TextFault (List Char × List Char) :=
  let (ds, rest) := takeUpTo isHexDigit count cs
  let last := place + 1 + ds.length
  if ds.length < count then .error (.badEscape place last reason)
  else
    let n := ofDigitsIn 16 ds
    if 0x10ffff < n then .error (.badEscape place last "illegal Unicode character")
    else .ok ([charOfNumber n], rest)

/-- An escape by the name of a character. -/
def nameEscape (place : Nat) (cs : List Char) : Except TextFault (List Char × List Char) :=
  let malformed := "malformed \\N character escape"
  match cs with
  | '\x7b' :: r =>
    let name := r.takeWhile (· != '\x7d')
    let last := place + 2 + escapeWidths name
    match r.drop name.length with
    | [] => .error (.badEscape place last malformed)
    | _ :: rest =>
      if name.isEmpty then .error (.badEscape place last malformed)
      else
        match Text.charNamed? name with
        | some c => .ok ([c], rest)
        | none => .error (.badEscape place (last + 1) "unknown Unicode character name")
  | _ => .error (.badEscape place (place + 1) malformed)

/-- What an escape at a place stands for, given what follows its backslash, and the rest. -/
def escape (place : Nat) : List Char → Except TextFault (List Char × List Char)
  | [] => .ok (['\\'], [])
  | c :: r =>
    match simpleEscape? c with
    | some d => .ok ([d], r)
    | none =>
      if c == '\n' then .ok ([], r)
      else if isOctalDigit c then
        let (ds, rest) := takeUpTo isOctalDigit 3 (c :: r)
        .ok ([Char.ofNat (ofDigitsIn 8 ds)], rest)
      else if c == 'x' then hexEscape place 2 "truncated \\xXX escape" r
      else if c == 'u' then hexEscape place 4 "truncated \\uXXXX escape" r
      else if c == 'U' then hexEscape place 8 "truncated \\UXXXXXXXX escape" r
      else if c == 'N' then nameEscape place r
      else .ok (['\\', c], r)

/-- How many places an escape took: a backslash before a character beyond ASCII is escaped too. -/
def escapePlaces (after rest : List Char) : Nat :=
  let taken := after.take (after.length - rest.length)
  (if taken.any (128 ≤ ·.toNat) && taken.length == 1 then 6 else 1) + escapeWidths taken

/-- Undoes the escapes of a text from a place on; each round takes a character. -/
def unescapeFrom : Nat → Nat → List Char → Except TextFault (List Char)
  | 0, _, _ => .ok []
  | _ + 1, _, [] => .ok []
  | n + 1, place, c :: r =>
    if c == '\\' then do
      let (out, rest) ← escape place r
      let more ← unescapeFrom n (place + escapePlaces r rest) rest
      pure (out ++ more)
    else do
      let more ← unescapeFrom n (place + escapeWidth c) r
      pure (c :: more)

/-- The text with its escapes undone. -/
def unescape (cs : List Char) : Except TextFault (List Char) := unescapeFrom cs.length 0 cs

/-- Undoes the escapes of bytes from a place on. -/
def unescapeBytesFrom : Nat → Nat → List Char → Except TextFault (List UInt8)
  | 0, _, _ => .ok []
  | _ + 1, _, [] => .ok []
  | n + 1, place, '\\' :: c :: r =>
    let byte (b : Nat) (used : Nat) (rest : List Char) : Except TextFault (List UInt8) :=
      (UInt8.ofNat b :: ·) <$> unescapeBytesFrom n (place + used) rest
    match simpleEscape? c with
    | some d => byte d.toNat 2 r
    | none =>
      if c == '\n' then unescapeBytesFrom n (place + 2) r
      else if isOctalDigit c then
        let (ds, rest) := takeUpTo isOctalDigit 3 (c :: r)
        byte (ofDigitsIn 8 ds) (1 + ds.length) rest
      else if c == 'x' then
        let (ds, rest) := takeUpTo isHexDigit 2 r
        if ds.length < 2 then .error (.badByteEscape place) else byte (ofDigitsIn 16 ds) 4 rest
      else (UInt8.ofNat 92 :: ·) <$> unescapeBytesFrom n (place + 1) (c :: r)
  | n + 1, place, c :: r =>
    (UInt8.ofNat c.toNat :: ·) <$> unescapeBytesFrom n (place + 1) r

/-- The bytes of a quotation of ASCII characters. -/
def bytesOf (q : Quotation) : Except TextFault (List UInt8) :=
  if q.body.any (128 ≤ ·.toNat) then .error .wideByte
  else if q.raw then .ok (q.body.map fun c => UInt8.ofNat c.toNat)
  else unescapeBytesFrom q.body.length 0 q.body

/-- The text of a literal part. -/
def textOf (raw : Bool) (body : List Char) : Except TextFault (List Char) :=
  if raw then .ok body else unescape body

/-! Parts of a formatted text -/

/-- A part of a formatted text. A field has the source of its expression and the count of lines
before it; it may show that source, convert the value and format it by parts of its own. -/
inductive FormatPart
  | literal (body : List Char)
  | field (source : List Char) (lines : Nat) (shown : Option (List Char))
      (conversion : Option Char) (spec : Option (List FormatPart))
  | broken (fault : FieldFault)
  deriving Inhabited

/-- A literal part at the front: it ends before a brace, or after the first of two equal braces, of
which the second is dropped; then the last answer is true. In the format of a field a brace always
ends it. `inName` tells that the part stands inside the name of a character. -/
def takeLiteral (raw nested : Bool) : Bool → List Char → List Char × List Char × Bool
  | _, [] => ([], [], false)
  | true, c :: r => literalCons c (takeLiteral raw nested (c != '\x7d') r)
  | false, c :: r =>
    if c == '\\' && !raw then
      match r with
      | [] => ([c], [], false)
      | d :: t =>
        if d == 'N' then
          match t with
          | [] => ([c, d], [], false)
          | e :: u =>
            literalCons c (literalCons d (literalCons e (takeLiteral raw nested (e == '\x7b') u)))
        else if isBrace d then
          if !nested && t.head? == some d then ([c, d], t.drop 1, true) else ([c], r, false)
        else literalCons c (literalCons d (takeLiteral raw nested false t))
    else if isBrace c then
      if !nested && r.head? == some c then ([c], r.drop 1, true) else ([], c :: r, false)
    else literalCons c (takeLiteral raw nested false r)
where
  isBrace (c : Char) : Bool := c == '\x7b' || c == '\x7d'
  literalCons (c : Char) : List Char × List Char × Bool → List Char × List Char × Bool
    | (lit, rest, doubled) => (c :: lit, rest, doubled)

/-- The source of a field's expression and the rest, which starts with the sign that ends it; a rest
of nothing means that no sign does. The first `skip` characters are taken as they are; `inside` is
the quote that the front stands in and whether it is threefold; `open'` holds the open brackets. -/
def takeSource (skip : Nat) (inside : Option (Char × Bool)) (open' : List Char) :
    List Char → Except FieldFault (List Char × List Char)
  | [] =>
    if inside.isSome then .error .unterminated
    else
      match open' with
      | c :: _ => .error (.unmatched c)
      | [] => .ok ([], [])
  | c :: r =>
    let keep (skip : Nat) (inside : Option (Char × Bool)) (open' : List Char) :=
      (takeSource skip inside open' r).map fun (s, rest) => (c :: s, rest)
    if 0 < skip then keep (skip - 1) inside open'
    else if c == '\\' then .error .backslash
    else
      match inside with
      | some (q, triple) =>
        if c != q then keep 0 inside open'
        else if !triple then keep 0 none open'
        else if [q, q].isPrefixOf r then keep 2 none open'
        else keep 0 inside open'
      | none =>
        if c == '\'' || c == '"' then
          if [c, c].isPrefixOf r then keep 2 (some (c, true)) open'
          else keep 0 (some (c, false)) open'
        else if c == '(' || c == '[' || c == '\x7b' then
          if 200 ≤ open'.length then .error .tooManyBrackets else keep 0 none (c :: open')
        else if c == '#' then .error .comment
        else if open'.isEmpty && ['!', ':', '\x7d', '=', '>', '<'].contains c then
          if ['!', '=', '<', '>'].contains c && r.head? == some '=' then keep 1 none open'
          else if c == '>' || c == '<' then keep 0 none open'
          else .ok ([], c :: r)
        else if c == ')' || c == ']' || c == '\x7d' then
          match open' with
          | [] => .error (.unmatched c)
          | o :: rest => if closerOf o == c then keep 0 none rest else .error (.mismatched c o)
        else keep 0 none open'

/-- White space that the source of an expression may hold around it. -/
def isSourceBlank (c : Char) : Bool := c == ' ' || c == '\t' || c == '\n' || c == '\x0c'

/-- The conversion after its mark, and the rest. -/
def takeConversion (cs : List Char) : Except FieldFault (Char × List Char) :=
  let text := cs.takeWhile fun c => c != '\x7d' && c != ':'
  match cs.drop text.length with
  | [] => .error .expectingBrace
  | rest =>
    match text with
    | [] => .error .missedConversion
    | [c] =>
      if c == 's' || c == 'r' || c == 'a' then .ok (c, rest) else .error (.badConversion text)
    | _ => .error (.badConversion text)

/-- The text of an expression that a field shows, with the equals sign and the blanks after it, and
the rest. -/
def takeShown (source rest : List Char) : Option (List Char) × List Char :=
  match rest with
  | '=' :: r =>
    let blanks := r.takeWhile fun c => isSourceBlank c || c == '\x0b' || c == '\r'
    (some (source ++ '=' :: blanks), r.drop blanks.length)
  | _ => (none, rest)

mutual

/-- The parts of a formatted text whose lines before its end are `total`, and what is left: a
closing brace ends the format of a field. Each round takes a character. -/
def formatParts (raw : Bool) (total level : Nat) : Nat → List Char → List FormatPart × List Char
  | 0, cs => ([], cs)
  | fuel + 1, cs =>
    let (lit, rest, doubled) := takeLiteral raw (level != 0) false cs
    let front := if lit.isEmpty then [] else [FormatPart.literal lit]
    if doubled then
      let (more, rest) := formatParts raw total level fuel rest
      (front ++ more, rest)
    else
      match rest with
      | [] => (front, [])
      | c :: r =>
        if c == '\x7d' then if level == 0 then ([.broken .loneBrace], []) else (front, rest)
        else
          let (field, rest, whole) := formatField raw total level fuel r
          if whole then
            let (more, rest) := formatParts raw total level fuel rest
            (front ++ field ++ more, rest)
          else (front ++ field, [])

/-- A field after its opening brace and what follows its closing brace, if it is whole. -/
def formatField (raw : Bool) (total level : Nat) :
    Nat → List Char → List FormatPart × List Char × Bool
  | 0, cs => ([], cs, false)
  | fuel + 1, cs =>
    if 2 ≤ level then ([.broken .nestedTooDeeply], [], false)
    else
      match takeSource 0 none [] cs with
      | .error f => ([.broken f], [], false)
      | .ok (source, rest) =>
        match rest.head? with
        | none => ([.broken .expectingBrace], [], false)
        | some sign =>
          if source.all isSourceBlank then ([.broken (.empty sign)], [], false)
          else
            let lines := total - cs.count '\n'
            let field := FormatPart.field source lines
            let stop (f : FieldFault) : List FormatPart × List Char × Bool :=
              ([field none none none, .broken f], [], false)
            let (shown, rest) := takeShown source rest
            if rest.isEmpty then stop .expectingBrace
            else
              let converted : Except FieldFault (Option Char × List Char) := match rest with
                | '!' :: r => (takeConversion r).map fun (c, rest) => (some c, rest)
                | _ => .ok (none, rest)
              match converted with
              | .error f => stop f
              | .ok (conversion, rest) =>
                match rest with
                | ':' :: r =>
                  if r.isEmpty then stop .expectingBrace
                  else
                    let (spec, rest) := formatParts raw total (level + 1) fuel r
                    let part := field shown conversion (some spec)
                    match rest with
                    | '\x7d' :: rest => ([part], rest, true)
                    | _ => ([part, .broken .expectingBrace], [], false)
                | '\x7d' :: rest =>
                  let conversion :=
                    if shown.isSome && conversion.isNone then some 'r' else conversion
                  ([field shown conversion none], rest, true)
                | _ => stop .expectingBrace

end

/-- The parts of a formatted quotation. -/
def Quotation.parts (q : Quotation) : List FormatPart :=
  (formatParts q.raw (q.body.count '\n') 0 (3 * q.body.length + 3) q.body).1

end Exemplar.Syntax
