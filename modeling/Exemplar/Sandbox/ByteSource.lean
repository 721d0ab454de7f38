import Exemplar.Machine.Codec

/-
  Programs that are sent as bytes. A comment in one of the first two lines may declare an encoding;
  without one the bytes are UTF-8. Bytes that are no text then matter only where a text or a name is
  made of them, and not in comments.
-/

namespace Exemplar.ByteSource

/-- Why bytes are no program, and the line that is at fault; line zero stands for all of them. -/
structure Failure where
  message : String
  line : Nat

/-- Bytes as characters of one byte each. -/
def narrow (bytes : List UInt8) : List Char := bytes.map fun b => Char.ofNat b.toNat

/-- Line ends of all kinds as line feeds, the last line with one. -/
def endLines (bytes : List UInt8) : List UInt8 :=
  let step (done : List UInt8 × Bool) (b : UInt8) : List UInt8 × Bool :=
    if b == 13 then (10 :: done.1, true)
    else if b == 10 && done.2 then (done.1, false)
    else (b :: done.1, false)
  let all := (bytes.foldl step ([], false)).1
  if all.isEmpty || all.head? == some 10 then all.reverse else (10 :: all).reverse

/-! ### The declared encoding -/

def isBlank (c : Char) : Bool := c == ' ' || c == '\t' || c == '\x0c'

def isNamePart (c : Char) : Bool := c.isAlphanum || c == '-' || c == '_' || c == '.'

/-- The name behind the first mark of a declaration in a comment. -/
def nameIn : List Char → Option String
  | [] => none
  | c :: r =>
    let rest := (c :: r).drop 6
    let name := ((rest.drop 1).dropWhile fun c => c == ' ' || c == '\t').takeWhile isNamePart
    if (c :: r).take 6 == "coding".toList && (rest.head? == some ':' || rest.head? == some '=') &&
      !name.isEmpty then some (String.ofList name)
    else nameIn r

/-- The usual name of an encoding that has more than one. -/
def usualName (name : String) : String :=
  let letter (c : Char) := if c == '_' then '-' else c.toLower
  let front := String.ofList ((name.toList.take 12).map letter)
  if front == "utf-8" || front.startsWith "utf-8-" then "utf-8"
  else if ["latin-1", "iso-8859-1", "iso-latin-1"].contains front ||
    ["latin-1-", "iso-8859-1-", "iso-latin-1-"].any fun p => front.startsWith p then "iso-8859-1"
  else name

/-- The encoding that a line declares. -/
def declaredIn? (line : List Char) : Option String :=
  match line.dropWhile isBlank with
  | '#' :: r => (nameIn ('#' :: r)).map usualName
  | _ => none

/-- Whether a line holds nothing but a comment, so that the next may still declare an encoding. -/
def isIdle (line : List Char) : Bool :=
  match line.dropWhile isBlank with
  | [] => true
  | c :: _ => c == '#'

/-- The encoding that one of the first two lines declares. -/
def declared? (bytes : List UInt8) : Option String :=
  let cs := narrow bytes
  let first := cs.takeWhile (· != '\n')
  let second := (cs.drop (first.length + 1)).takeWhile (· != '\n')
  match declaredIn? first with
  | some name => some name
  | none => if isIdle first then declaredIn? second else none

/-! ### Bytes that are no text -/

/-- How a text is quoted. -/
structure Quotes where
  mark : UInt8
  long : Bool
  raw : Bool
  ofBytes : Bool
  deriving DecidableEq

/-- Where in a program a byte stands: in a comment, in a text whose content has begun at an offset,
or in a name that has begun at one. -/
inductive Spot
  | plain
  | comment
  | name (start : Nat)
  | text (start : Nat) (q : Quotes)
  deriving DecidableEq

def lineFeed : UInt8 := 10

def backslash : UInt8 := 92

def isMark (b : UInt8) : Bool := b == 34 || b == 39

def isNameByte (b : UInt8) : Bool := 128 ≤ b || b == 95 || (Char.ofNat b.toNat).isAlphanum

/-- The spot behind a quotation mark at an offset, with the letters before the mark, and how many
more bytes belong to the mark. -/
def opened (place : Nat) (mark : UInt8) (letters r : List UInt8) : Spot × Nat :=
  let letters := (narrow letters).map Char.toLower
  let long := r.take 2 == [mark, mark]
  let q : Quotes := ⟨mark, long, letters.contains 'r', letters.contains 'b'⟩
  if long then (.text (place + 3) q, 2) else (.text (place + 1) q, 0)

/-- The spot behind a byte at a spot, and how many more bytes go with it. -/
def after (place : Nat) (spot : Spot) (letters : List UInt8) (b : UInt8) (r : List UInt8) :
    Spot × Nat :=
  match spot with
  | .comment => (if b == lineFeed then .plain else .comment, 0)
  | .text start q =>
    if b == backslash then (.text start q, 1)
    else if q.long then
      if b == q.mark && r.take 2 == [q.mark, q.mark] then (.plain, 2) else (.text start q, 0)
    else (if b == q.mark || b == lineFeed then .plain else .text start q, 0)
  | spot =>
    if isMark b then opened place b letters r
    else if b == 35 then (.comment, 0)
    else match spot with
      | .name start => (if isNameByte b then .name start else .plain, 0)
      | _ => (.plain, 0)

/-- The spot of the byte at an offset. The first byte given is at `place`; `skip` bytes go with
those before it, and `letters` are the last of those if they belong to a name. -/
def spotAt (target place skip : Nat) (spot : Spot) (letters : List UInt8) : List UInt8 → Spot
  | [] => spot
  | b :: r =>
    let here : Spot :=
      if spot == .plain && skip == 0 && isNameByte b then .name place else spot
    if place == target then here else
    match skip with
    | k + 1 => spotAt target (place + 1) k spot [] r
    | 0 =>
      let (next, skip) := after place here letters b r
      let letters := match next with
        | .name _ => letters ++ [b]
        | _ => []
      spotAt target (place + 1) skip next letters r

/-- The content of a text up to the closing mark. -/
def contentOf (q : Quotes) : List UInt8 → List UInt8
  | [] => []
  | b :: r =>
    if b == q.mark && (!q.long || r.take 2 == [q.mark, q.mark]) then []
    else if b == backslash then
      match r with
      | [] => [b]
      | c :: r => b :: c :: contentOf q r
    else b :: contentOf q r

/-- The line of the byte at an offset. -/
def lineOf (bytes : List UInt8) (place : Nat) : Nat := (bytes.take place).count lineFeed + 1

/-- What is wrong with bytes that a text or a name is made of. -/
def refuse (bytes : List UInt8) (line : Nat) (otherwise : Utf8.Failure) : Failure :=
  let f := match Utf8.decode bytes with
    | .ok _ => otherwise
    | .error f => f
  ⟨"(unicode error) " ++ f.message, line⟩

/-- The text of a program in UTF-8. Comments may hold anything; the count of bytes bounds how often
one is mended. -/
def plainText : Nat → List UInt8 → Except Failure (List Char)
  | 0, _ => .ok []
  | fuel + 1, bytes =>
    match Utf8.decode bytes with
    | .ok cs => .ok cs
    | .error f =>
      match spotAt f.start 0 0 .plain [] bytes with
      | .plain | .comment =>
        plainText fuel (bytes.take f.start ++ 63 :: bytes.drop (f.start + f.count))
      | .name start =>
        .error (refuse ((bytes.drop start).takeWhile isNameByte) (lineOf bytes f.start) f)
      | .text start q =>
        let content := contentOf q (bytes.drop start)
        let line := lineOf bytes (start + content.length)
        if q.ofBytes then .error ⟨"bytes can only contain ASCII literal characters", line⟩
        else if q.raw || !content.contains backslash then .error (refuse content line f)
        else
          let before := ((bytes.take f.start).reverse.takeWhile fun b => 128 ≤ b).reverse
          let run := before ++ (bytes.drop f.start).takeWhile fun b => 128 ≤ b
          .error (refuse run line f)

/-! ### Programs -/

/-- The text of bytes in an encoding that a declaration names. -/
def textIn (name : String) (bytes : List UInt8) : Except Failure (List Char) :=
  match Machine.Encoding.ofName? name with
  | some .utf8 | some .markedUtf8 => (Utf8.decode bytes).mapError fun f => ⟨f.message, 0⟩
  | some .ascii =>
    match bytes.findIdx? (128 ≤ ·) with
    | none => .ok (narrow bytes)
    | some place =>
      .error ⟨"'ascii' codec can't decode byte 0x" ++
        Utf8.hexPair (bytes.getD place 0).toNat ++ " in position " ++ toString place ++
        ": ordinal not in range(128)", 0⟩
  | some _ => .ok (narrow bytes)
  | none =>
    let plain := Machine.Encoding.plainName name
    if Machine.Encoding.noText.contains plain then
      .error ⟨"'" ++ name ++ "' is not a text encoding; use codecs.decode() to handle " ++
        "arbitrary codecs", 0⟩
    else if Machine.Encoding.foreign.contains plain then .ok (narrow bytes)
    else .error ⟨"unknown encoding: " ++ name, 0⟩

/-- The text of a program. A mark of UTF-8 at the start allows no other encoding. -/
def text (bytes : List UInt8) : Except Failure (List Char) :=
  let marked := [0xef, 0xbb, 0xbf].isPrefixOf bytes
  let bytes := endLines (if marked then bytes.drop 3 else bytes)
  match declared? bytes with
  | none | some "utf-8" => plainText (bytes.length + 1) bytes
  | some name =>
    if marked then .error ⟨"encoding problem: " ++ name ++ " with BOM", 0⟩ else textIn name bytes

end Exemplar.ByteSource
