import Exemplar.Machine.Codec
import Exemplar.Machine.Method.Basic
import Exemplar.Text.Lines
import Exemplar.Text.Quoted

/-
  Methods of bytes, those that may change and those that may not. Only ASCII letters have case, and
  only ASCII blanks part words. A method gives bytes of the type that it is called on.
-/

namespace Exemplar.Machine.Method.OnBytes

abbrev Bytes := List UInt8

def letter (b : UInt8) : Char := Char.ofNat b.toNat

def ofLetter (c : Char) : UInt8 := UInt8.ofNat c.toNat

def isBlank (b : UInt8) : Bool := b == 32 || (9 ≤ b && b ≤ 13)

/-- A byte under a function on ASCII letters. -/
def lettered (f : Char → Char) (b : UInt8) : UInt8 := if b < 128 then ofLetter (f (letter b)) else b

def isUpper (b : UInt8) : Bool := 65 ≤ b && b ≤ 90

def isLower (b : UInt8) : Bool := 97 ≤ b && b ≤ 122

def isLetter (b : UInt8) : Bool := isUpper b || isLower b

def isDigit (b : UInt8) : Bool := 48 ≤ b && b ≤ 57

def upper (b : UInt8) : UInt8 := lettered Char.toUpper b

def lower (b : UInt8) : UInt8 := lettered Char.toLower b

def titleFrom (inWord : Bool) : Bytes → Bytes
  | [] => []
  | b :: r => (if inWord then lower b else upper b) :: titleFrom (isLetter b) r

/-- Changes of case. -/
def changes : List (String × (Bytes → Bytes)) :=
  [("upper", List.map upper),
   ("lower", List.map lower),
   ("swapcase", List.map fun b => if isUpper b then lower b else upper b),
   ("title", titleFrom false),
   ("capitalize", fun s => match s with
      | [] => []
      | b :: r => upper b :: r.map lower)]

def all (p : UInt8 → Bool) (s : Bytes) : Bool := !s.isEmpty && s.all p

/-- Tests of all bytes. -/
def tests : List (String × (Bytes → Bool)) :=
  [("isalnum", all fun b => isLetter b || isDigit b),
   ("isalpha", all isLetter),
   ("isascii", fun s => s.all (· < 128)),
   ("isdigit", all isDigit),
   ("islower", fun s => s.any isLower && !s.any isUpper),
   ("isspace", all isBlank),
   ("istitle", fun s => s.any isLetter && titleFrom false s == s),
   ("isupper", fun s => s.any isUpper && !s.any isLower)]

/-- The lines of bytes, with or without their ends. -/
def lines (keep : Bool) (line : Bytes) : Bytes → List Bytes
  | [] => if line.isEmpty then [] else [line.reverse]
  | 13 :: 10 :: r =>
    (line.reverse ++ (if keep then [13, 10] else [])) :: lines keep [] r
  | b :: r =>
    if b == 10 || b == 13 then (line.reverse ++ (if keep then [b] else [])) :: lines keep [] r
    else lines keep (b :: line) r

/-- Bytes to look for: some bytes, or one that a number is. -/
def sought (e : Engine) (v : Value) : Exec Bytes := do
  match ← Compare.bytes? v with
  | some b => pure b
  | none =>
    if !(← Item.isIndex v) then
      Exec.typeError ("argument should be integer or bytes-like object, not '" ++
        (← Typing.word v) ++ "'")
    return [← Item.byteOf e "byte" v]

def bounds (e : Engine) (p : Passed) : Exec (Option Int × Option Int) := do
  p.taking 1 3
  let start ← Item.slicePart e (p.arg 1)
  return (start, ← Item.slicePart e (p.arg 2))

def attached (e : Engine) (s : Bytes) (p : Passed) : Exec Bool := do
  let atEnd := p.short == "endswith"
  let (start, stop) ← bounds e p
  let here (t : Bytes) : Bool :=
    match (Search.section? s start stop).2 with
    | none => false
    | some part => if atEnd then t.reverse.isPrefixOf part.reverse else t.isPrefixOf part
  match ← Typing.unboxed (p.arg 0) with
  | .tuple items => items.anyM fun v => return here (← bufferOf v)
  | v =>
    match ← Compare.bytes? v with
    | some t => pure (here t)
    | none =>
      Exec.typeError (p.short ++ " first arg must be bytes or a tuple of bytes, not " ++
        (← Typing.word (p.arg 0)))

/-- The separator and the number of cuts that a method is given. -/
def splitting (e : Engine) (s : Bytes) (p : Passed) : Exec (Option Bytes × Nat) := do
  let given ← p.fill ["sep", "maxsplit"] 0 2
  let cuts := Search.cutsOf s (← sizeOr e (-1) (given.getD 1 none))
  match given.getD 0 none with
  | none | some .none => pure (none, cuts)
  | some v =>
    let part ← bufferOf v
    if part.isEmpty then Exec.valueError "empty separator"
    pure (some part, cuts)

/-- The byte that an argument is. -/
def singleByte (p : Passed) (place : Nat) : Exec UInt8 := do
  match p.arg? place with
  | none => pure 32
  | some v =>
    match ← Compare.bytes? v with
    | some [b] => pure b
    | _ => p.refuse ("argument " ++ toString (place + 1)) "a byte string of length 1" v

def join (e : Engine) (s : Bytes) (v : Value) : Exec Bytes := do
  match ← Iterate.iter? e v with
  | none => Exec.typeError "can only join an iterable"
  | some _ =>
    let items ← Iterate.collect e v
    let parts ← items.zipIdx.mapM fun (v, i) => do
      match ← Compare.bytes? v with
      | some b => pure b
      | none =>
        Exec.typeError ("sequence item " ++ toString i ++
          ": expected a bytes-like object, " ++ (← Typing.word v) ++ " found")
    pure (s.intercalate parts)

/-- Bytes in hexadecimal digits with a mark between groups of so many, counted from the end or, by
a negative number, from the start. -/
def hexText (mark : List Char) (group : Int) (s : Bytes) : String :=
  let pairs := s.map fun b => Text.hex2 b.toNat
  let n := pairs.length
  let size := group.natAbs
  if size == 0 then String.ofList pairs.flatten
  else
    let marked := pairs.zipIdx.flatMap fun (ds, i) =>
      let stands := i != 0 && (if 0 < group then (n - i) % size == 0 else i % size == 0)
      (if stands then mark else []) ++ ds
    String.ofList marked

def hex (e : Engine) (s : Bytes) (p : Passed) : Exec Value := do
  let given ← p.fill ["sep", "bytes_per_sep"] 0 2
  let group ← match given.getD 1 none with
    | some v => Measure.smallArgument e v
    | none => pure 1
  let mark ← match given.getD 0 none with
    | none => pure []
    | some v =>
      match ← Typing.unboxed v, ← Compare.bytes? v with
      | .str t, _ => pure t.toList
      | _, some b => pure (b.map letter)
      | _, none => Exec.typeError "sep must be str or bytes."
  if (given.getD 0 none).isSome then
    if mark.length != 1 then Exec.valueError "sep must be length 1."
    if mark.any fun c => 128 ≤ c.toNat then Exec.valueError "sep must be ASCII."
  pure (.str (hexText mark (if mark.isEmpty then 0 else group) s))

/-- The value of a hexadecimal digit. -/
def hexValue? (c : Char) : Option Nat :=
  if c.isDigit then some (c.toNat - 48)
  else if 'a' ≤ c && c ≤ 'f' then some (c.toNat - 87)
  else if 'A' ≤ c && c ≤ 'F' then some (c.toNat - 55)
  else none

/-- The bytes that pairs of hexadecimal digits stand for, blanks between them counting nothing; or
the place of the first fault. -/
def ofHex : Nat → List Char → Except Nat Bytes
  | _, [] => .ok []
  | place, c :: r =>
    if c.toNat < 128 && isBlank (ofLetter c) then ofHex (place + 1) r
    else match hexValue? c, r with
      | none, _ => .error place
      | some _, [] => .error (place + 1)
      | some a, d :: r =>
        match hexValue? d with
        | none => .error (place + 1)
        | some b => (ofHex (place + 2) r).map (UInt8.ofNat (16 * a + b) :: ·)

def translate (s : Bytes) (p : Passed) : Exec Bytes := do
  let given ← p.fill ["", "delete"] 1 2
  let table ← match given.getD 0 none with
    | none | some .none => pure none
    | some v =>
      let t ← bufferOf v
      if t.length != 256 then
        Exec.valueError "translation table must be 256 characters long"
      pure (some t.toArray)
  let gone ← match given.getD 1 none with
    | some v => bufferOf v
    | none => pure []
  let kept := s.filter fun b => !gone.contains b
  pure (match table with
    | some t => kept.map fun b => t.getD b.toNat b
    | none => kept)

/-- A table that puts bytes in the place of others. -/
def makeTable (p : Passed) : Exec Value := do
  p.between 2 2
  let source ← bufferOf (p.arg 0)
  let target ← bufferOf (p.arg 1)
  if source.length != target.length then
    Exec.valueError "maketrans arguments must have same length"
  let table := (source.zip target).foldl (fun t (a, b) => t.setIfInBounds a.toNat b)
    ((Array.range 256).map UInt8.ofNat)
  pure (.bytes table.toList)

def encodingOf (p : Passed) : Exec (String × String) := do
  let given ← p.fill ["encoding", "errors"] 0 2
  let part (place : Nat) (name otherwise : String) : Exec String := do
    match given.getD place none with
    | none => pure otherwise
    | some v => p.text ("argument '" ++ name ++ "'") v
  return (← part 0 "encoding" "utf-8", ← part 1 "errors" "strict")

/-- Calls a method that all bytes have. -/
def shared (e : Engine) (make : Bytes → Exec Value) (s : Bytes) (p : Passed) : Exec Value := do
  let several (parts : List Bytes) : Exec Value := do listOf (← parts.mapM make)
  match changes.lookup p.short, tests.lookup p.short with
  | some f, _ =>
    p.nothing
    make (f s)
  | none, some f =>
    p.nothing
    pure (.bool (f s))
  | none, none =>
  match p.short with
  | "find" | "index" | "rfind" | "rindex" =>
    let (start, stop) ← bounds e p
    let part ← sought e (p.arg 0)
    let (offset, section?) := Search.section? s start stop
    let found := section?.bind fun within =>
      if p.short.startsWith "r" then Search.last? part within else Search.first? part within
    match found with
    | some i => pure (.int (offset + i))
    | none =>
      if p.short.endsWith "find" then pure (.int (-1))
      else Exec.valueError "subsection not found"
  | "count" =>
    let (start, stop) ← bounds e p
    let part ← sought e (p.arg 0)
    let n := (Search.section? s start stop).2.elim 0 (Search.count part)
    pure (.int n)
  | "startswith" | "endswith" => return .bool (← attached e s p)
  | "ljust" | "rjust" | "center" =>
    p.between 1 2
    let width ← Measure.sizeArgument e (p.arg 0)
    make (Search.fill p.short s width (← singleByte p 1))
  | "zfill" => do
    make (Search.zeroFill 43 45 48 s (← Measure.sizeArgument e (← p.one)))
  | "strip" | "lstrip" | "rstrip" =>
    p.between 0 1
    let drop ← match p.arg 0 with
      | .none => pure isBlank
      | v =>
        let t ← bufferOf v
        pure fun b => t.contains b
    make (Search.strip (p.short != "rstrip") (p.short != "lstrip") drop s)
  | "replace" =>
    p.between 2 3
    let old ← bufferOf (p.arg 0)
    let new ← bufferOf (p.arg 1)
    let n ← sizeOr e (-1) (p.arg? 2)
    make (Search.replace s old new (Search.cutsOf s n))
  | "split" | "rsplit" =>
    let (separator, cuts) ← splitting e s p
    several (if p.short == "split" then Search.split isBlank s separator cuts
      else Search.splitLast isBlank s separator cuts)
  | "splitlines" =>
    let keep ← match (← p.fill ["keepends"] 0 1).getD 0 none with
      | some v => (· != 0) <$> Measure.smallArgument e v
      | none => pure false
    several (lines keep [] s)
  | "expandtabs" =>
    let width ← match (← p.fill ["tabsize"] 0 1).getD 0 none with
      | some v => Measure.smallArgument e v
      | none => pure 8
    make (if width ≤ 0 then s.filter (· != 9)
      else (Text.expandTabs width.toNat 0 (s.map letter)).map ofLetter)
  | "partition" | "rpartition" =>
    let part ← bufferOf (← p.one)
    if part.isEmpty then Exec.valueError "empty separator"
    return .tuple (← (Search.partition (p.short == "rpartition") part s).mapM make)
  | "removeprefix" | "removesuffix" => do
    make (Search.removed (p.short == "removesuffix") (← bufferOf (← p.one)) s)
  | "join" => do make (← join e s (← p.one))
  | "hex" => hex e s p
  | "decode" =>
    let (encoding, rule) ← encodingOf p
    return .str (← Codec.decode encoding rule s)
  | "translate" => do make (← translate s p)
  | "__bytes__" =>
    p.nothing
    pure (.bytes s)
  | "__getnewargs__" =>
    p.nothing
    pure (.tuple [.bytes s])
  | "__sizeof__" | "__alloc__" => pure (.int (33 + s.length))
  | _ => unsupported p.full

/-- Calls a method of bytes that do not change. -/
def call (e : Engine) (s : Bytes) (p : Passed) : Exec Value :=
  shared e (fun b => pure (.bytes b)) s p

/-- Calls a method of bytes that may change. -/
def callChanging (e : Engine) (a : Nat) (p : Passed) : Exec Value := do
  let set (b : Array UInt8) : Exec Value := do
    Exec.setData a (.bytearray b)
    pure .none
  let make (b : Bytes) : Exec Value := Exec.new .bytearray (.bytearray b.toArray)
  match p.short with
  | "append" =>
    let x ← Item.byteOf e "byte" (← p.one)
    set ((← Item.bytesAt a).push x)
  | "extend" =>
    let v ← p.one
    match ← Compare.bytes? v with
    | some more => set ((← Item.bytesAt a) ++ more.toArray)
    | none =>
      match ← Iterate.iter? e v with
      | none => Exec.typeError ("can't extend bytearray with " ++ (← Typing.word v))
      | some _ =>
        let more ← (← Iterate.array e v).mapM fun w =>
          Exec.catching (Item.byteOf e "byte" w) fun x => do
            match ← Typing.isError x "TypeError", v with
            | true, .str _ => Exec.typeError "expected iterable of integers; got: 'str'"
            | _, _ => throw (.raised x)
        set ((← Item.bytesAt a) ++ more)
  | "insert" =>
    p.between 2 2
    let i ← Measure.sizeArgument e (p.arg 0)
    let x ← Item.byteOf e "byte" (p.arg 1)
    let b ← Item.bytesAt a
    let n : Int := b.size
    set (b.insertIdxIfInBounds (max 0 (min n (if i < 0 then i + n else i))).toNat x)
  | "pop" =>
    p.between 0 1
    let i ← sizeOr e (-1) (p.arg? 0)
    let b ← Item.bytesAt a
    if b.isEmpty then Exec.raise "IndexError" "pop from empty bytearray"
    match Item.place? b.size i with
    | none => Exec.raise "IndexError" "pop index out of range"
    | some place =>
      let _ ← set (b.eraseIdxIfInBounds place)
      pure (.int (b.getD place 0).toNat)
  | "remove" =>
    let x ← Item.byteOf e "byte" (← p.one)
    let b ← Item.bytesAt a
    match b.toList.idxOf? x with
    | some place => set (b.eraseIdxIfInBounds place)
    | none => Exec.valueError "value not found in bytearray"
  | "reverse" =>
    p.nothing
    set (← Item.bytesAt a).reverse
  | "clear" =>
    p.nothing
    set #[]
  | "copy" =>
    p.nothing
    make (← Item.bytesAt a).toList
  | _ => shared e make (← Item.bytesAt a).toList p

/-- Calls a function that the types of bytes declare. -/
def callStatic (p : Passed) : Exec Value := makeTable p

/-- Bytes of a type from hexadecimal digits. -/
def fromHex (e : Engine) (cls : Value) (p : Passed) : Exec Value := do
  let s ← p.text "argument" (← p.one)
  match ofHex 0 s.toList with
  | .error place =>
    Exec.valueError ("non-hexadecimal number found in fromhex() arg at position " ++
      toString place)
  | .ok b =>
    match cls with
    | .kind .bytes => pure (.bytes b)
    | cls => e.call cls [.bytes b] []

end Exemplar.Machine.Method.OnBytes
