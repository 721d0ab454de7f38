import Exemplar.Datum
import Exemplar.Machine.Item
import Exemplar.Machine.Layout

/-
  Values in the form that a format asks for, and texts with percent signs that stand for values.
-/

namespace Exemplar.Machine.Format

def laid (text typeName : String) (natural : Char) (f : Layout → Except Raised String) :
    Exec String :=
  Exec.ofExcept (Layout.read text typeName natural >>= f)

/-- A value in a layout by a type that is there without a declaration. -/
def byKind (e : Engine) (k : Kind) (v : Value) (spec : String) : Exec String := do
  if spec.isEmpty then return ← Show.plain e v
  let word ← Typing.word v
  match k, ← Typing.unboxed v with
  | .str, .str s => laid spec word '<' fun l => l.text word s
  | .int, .int n => laid spec word '>' fun l => l.int word n
  | .int, .bool b => laid spec word '>' fun l => l.int word (if b then 1 else 0)
  | .float, .float x => laid spec word '>' fun l => l.float word x
  | .complex, .complex a b => laid spec word '>' fun l => l.complex word a b
  | _, _ => Exec.typeError ("unsupported format string passed to " ++ word ++ ".__format__")

/-- A value in the layout that a text asks for. -/
def value (e : Engine) (v : Value) (spec : String) : Exec String := do
  match v, spec.isEmpty with
  | .str s, true => pure s
  | .int n, true => Show.intText n
  | _, _ =>
    match ← Typing.special? v "__format__" with
    | some (.native k _) => byKind e k v spec
    | _ =>
      match (← Typing.callSpecial? e v "__format__" [.str spec]).getD .none with
      | .str s => pure s
      | w =>
        match ← Typing.unboxed w with
        | .str s => pure s
        | _ => Exec.typeError ("__format__ must return a str, not " ++ (← Typing.word w))

/-- A quoted text with everything beyond ASCII escaped. -/
def asciiText (s : String) : String :=
  String.ofList (s.toList.flatMap fun c =>
    if c.toNat < 128 then [c]
    else if c.toNat < 0x100 then '\\' :: 'x' :: Text.hex2 c.toNat
    else if c.toNat < 0x10000 then '\\' :: 'u' :: Json.hex4 c.toNat
    else '\\' :: 'U' :: Json.hex4 (c.toNat / 0x10000) ++ Json.hex4 c.toNat)

/-- A value in a formatted text: converted where that is asked for, then laid out. -/
def converted (e : Engine) (v : Value) (conversion : Option Char) (spec : String) :
    Exec String := do
  match conversion with
  | some 's' => value e (.str (← Show.plain e v)) spec
  | some 'r' => value e (.str (← e.quoted v)) spec
  | some 'a' => value e (.str (asciiText (← e.quoted v))) spec
  | _ => value e v spec

/-! ### Percent signs -/

/-- Arguments for percent signs: those left by place, and the whole value. -/
structure Supply where
  left : List Value
  /-- Whether arguments by place may be left over. -/
  spare : Bool
  whole : Value

/-- What a percent sign asks for. -/
structure Request where
  left : Bool := false
  sign : Bool := false
  blank : Bool := false
  alternate : Bool := false
  zero : Bool := false
  width : Option Nat := none
  precision : Option Nat := none

/-- The flags behind a percent sign, and what follows. -/
def readFlags (r : Request) : List Char → Request × List Char
  | '-' :: s => readFlags { r with left := true } s
  | '+' :: s => readFlags { r with sign := true } s
  | ' ' :: s => readFlags { r with blank := true } s
  | '#' :: s => readFlags { r with alternate := true } s
  | '0' :: s => readFlags { r with zero := true } s
  | s => (r, s)

def notEnough {α : Type} : Exec α := Exec.typeError "not enough arguments for format string"

/-- The next argument by place. -/
def take (s : Supply) : Exec (Value × Supply) :=
  match s.left with
  | v :: vs => pure (v, { s with left := vs })
  | [] => notEnough

/-- The integer that a star stands for. -/
def starred (v : Value) : Exec Int := do
  match ← Measure.integer? v with
  | some n => pure n
  | none => Exec.typeError "* wants int"

/-- A number written out, or taken from the arguments where a star stands. -/
def readNumber (what : String) (most : Nat) (s : Supply) : List Char →
    Exec (Option Int × Supply × List Char)
  | '*' :: r => do
    let (v, s) ← take s
    return (some (← starred v), s, r)
  | r => do
    let ds := r.takeWhile (·.isDigit)
    let n := ds.foldl (fun n c => 10 * n + (c.toNat - 48)) 0
    if most < n then Exec.valueError (what ++ " too big")
    pure (if ds.isEmpty then none else some n, s, r.dropWhile (·.isDigit))

/-- The text up to the parenthesis that closes one, with what follows. -/
def readKey : Nat → List Char → List Char → Option (List Char × List Char)
  | _, _, [] => none
  | depth, key, c :: r =>
    if c == ')' && depth == 0 then some (key.reverse, r)
    else
      let inner := if c == '(' then depth + 1 else if c == ')' then depth - 1 else depth
      readKey inner (c :: key) r

/-- Fills a number with its sign and mark up to the width. -/
def padNumber (r : Request) (negative : Bool) (mark digits : List Char) : List Char :=
  let sign := if negative then ['-'] else if r.sign then ['+'] else if r.blank then [' '] else []
  let missing := r.width.getD 0 - (sign.length + mark.length + digits.length)
  if r.left then sign ++ mark ++ digits ++ List.replicate missing ' '
  else if r.zero then sign ++ mark ++ List.replicate missing '0' ++ digits
  else List.replicate missing ' ' ++ sign ++ mark ++ digits

/-- Fills a text up to the width. -/
def padText (r : Request) (cs : List Char) : List Char :=
  let missing := List.replicate (r.width.getD 0 - cs.length) ' '
  if r.left then cs ++ missing else missing ++ cs

/-- An integer behind a percent sign. -/
def integerText (r : Request) (k : Char) (n : Int) : Exec (List Char) := do
  let (base, mark) : Nat × List Char := match k with
    | 'o' => (8, ['0', 'o'])
    | 'x' => (16, ['0', 'x'])
    | 'X' => (16, ['0', 'X'])
    | _ => (10, [])
  if base == 10 && Decimal.isLong n then Exec.valueError Decimal.longIntegerMessage
  let ds := Nat.toDigits base n.natAbs
  let ds := if k == 'X' then ds.map Char.toUpper else ds
  let ds := List.replicate (r.precision.getD 0 - ds.length) '0' ++ ds
  pure (padNumber r (n < 0) (if r.alternate then mark else []) ds)

/-- The integer that a value is turned into behind a percent sign. -/
def integerOf (e : Engine) (k : Char) (v : Value) : Exec Int := do
  let needsIndex := k == 'o' || k == 'x' || k == 'X'
  let wrong : Exec Int := do
    Exec.typeError ("%" ++ String.singleton k ++ " format: " ++
      (if needsIndex then "an integer" else "a real number") ++ " is required, not " ++
      (← Typing.word v))
  match ← Measure.integer? v, ← Typing.unboxed v with
  | some n, _ => pure n
  | none, .float _ | none, .object _ =>
    if needsIndex then
      match ← Typing.absorbing "TypeError" (Measure.index? e v) with
      | some (some n) => pure n
      | _ => wrong
    else
      let isNumber ← match ← Typing.unboxed v with
        | .float _ => pure true
        | _ => ["__index__", "__int__", "__float__"].anyM fun n => do
          return (← Typing.ofProgram? (← Typing.of v) n).isSome
      if !isNumber then return ← wrong
      match ← Typing.absorbing "TypeError" (e.call (.kind .int) [v] []) with
      | some w =>
        match ← Measure.integer? w with
        | some n => pure n
        | none => wrong
      | none => wrong
  | none, _ => wrong

/-- The double that a value is. -/
def real (e : Engine) (v : Value) : Exec Binary64 := do
  match ← Typing.unboxed v with
  | .float x => pure x
  | w =>
    match w.int? with
    | some n => Exec.ofExcept (Numeric.toDouble n)
    | none =>
      match ← Typing.callProgram? e v "__float__" [] with
      | some r =>
        match ← Typing.unboxed r with
        | .float x => pure x
        | _ =>
          Exec.typeError ((← Typing.word v) ++ ".__float__ returned non-float (type " ++
            (← Typing.word r) ++ ")")
      | none =>
        match ← Measure.index? e v with
        | some n => Exec.ofExcept (Numeric.toDouble n)
        | none => Exec.typeError ("must be real number, not " ++ (← Typing.word v))

/-- The character that a value stands for. -/
def characterOf (e : Engine) (v : Value) : Exec Char := do
  let refuse : Exec Char := Exec.typeError "%c requires int or char"
  match ← Typing.unboxed v with
  | .str s =>
    match s.toList with
    | [c] => pure c
    | _ => refuse
  | _ =>
    match ← Typing.absorbing "TypeError" (Measure.index? e v) with
    | some (some n) =>
      if n < -0x8000000000000000 || 0x7fffffffffffffff < n then refuse
      else if n < 0 || 0x10ffff < n then Exec.overflow "%c arg not in range(0x110000)"
      else pure (Char.ofNat n.toNat)
    | _ => refuse

/-- The byte that a value stands for. -/
def byteOf (e : Engine) (v : Value) : Exec Char := do
  let refuse : Exec Char :=
    Exec.typeError "%c requires an integer in range(256) or a single byte"
  match ← Compare.bytes? v with
  | some [b] => pure (Char.ofNat b.toNat)
  | some _ => refuse
  | none =>
    match ← Typing.absorbing "TypeError" (Measure.index? e v) with
    | some (some n) =>
      if n < 0 || 255 < n then Exec.overflow "%c arg not in range(256)"
      else pure (Char.ofNat n.toNat)
    | _ => refuse

/-- The bytes that a value stands for in bytes, as characters. -/
def bytesText (e : Engine) (v : Value) : Exec (List Char) := do
  let chars (b : List UInt8) : List Char := b.map fun x => Char.ofNat x.toNat
  match ← Compare.bytes? v with
  | some b => pure (chars b)
  | none =>
    match ← Typing.callProgram? e v "__bytes__" [] with
    | some w =>
      match ← Compare.bytes? w with
      | some b => pure (chars b)
      | none =>
        Exec.typeError ("__bytes__ returned non-bytes (type " ++ (← Typing.word w) ++ ")")
    | none =>
      Exec.typeError ("%b requires a bytes-like object, or an object that implements " ++
        "__bytes__, not '" ++ (← Typing.word v) ++ "'")

/-- What a percent sign with a conversion stands for, whose letter is at a place. -/
def conversion (e : Engine) (inBytes : Bool) (r : Request) (k : Char) (place : Nat) (v : Value) :
    Exec (List Char) := do
  let cut (cs : List Char) : List Char := padText r (r.precision.elim cs cs.take)
  let asText := !inBytes && k == 's'
  if asText then return cut (← Show.plain e v).toList
  if inBytes && (k == 's' || k == 'b') then return cut (← bytesText e v)
  if k == 'a' || (inBytes && k == 'r') then return cut (asciiText (← e.quoted v)).toList
  if k == 'r' then return cut (← e.quoted v).toList
  if ['d', 'i', 'u', 'x', 'X', 'o'].contains k then
    return ← integerText r k (← integerOf e k v)
  if Layout.doubleKinds.contains k && k != 'n' then
    let x ← if inBytes then Exec.catching (real e v) fun y => do
        if ← Typing.isError y "TypeError" then
          Exec.typeError ("float argument required, not " ++ (← Typing.word v))
        else throw (.raised y)
      else real e v
    let (body, negative) := ({ kind := some k, precision := r.precision,
                               alternate := r.alternate } : Layout).number x true
    return padNumber r negative [] body
  if k == 'c' then
    return padText r [← if inBytes then byteOf e v else characterOf e v]
  let shown := if 31 ≤ k.toNat && k.toNat ≤ 126 then k else '?'
  Exec.valueError ("unsupported format character '" ++ String.singleton shown ++ "' (0x" ++
    String.ofList (Nat.toDigits 16 k.toNat) ++ ") at index " ++ toString place)

/-- Reads what stands behind a percent sign in a text of a length and converts an argument by it. -/
def directive (e : Engine) (inBytes : Bool) (length : Nat) (s : Supply) (mapping : Option Value)
    (r : List Char) : Exec (List Char × Supply × List Char) := do
  let (s, r) ← match r with
    | '(' :: q =>
      match mapping with
      | none => Exec.typeError "format requires a mapping"
      | some m =>
        match readKey 0 [] q with
        | none => Exec.valueError "incomplete format key"
        | some (key, q) =>
          let key := String.ofList key
          let key := if inBytes then Value.bytes (key.toList.map fun c => UInt8.ofNat c.toNat)
            else .str key
          let v ← Item.get e m key
          pure ({ s with left := [v], spare := true }, q)
    | q => pure (s, q)
  let (req, r) := readFlags {} r
  let (width, s, r) ← readNumber "width" 0x7fffffffffffffff s r
  if let some n := width then
    if n < -0x8000000000000000 || 0x7fffffffffffffff < n then
      Exec.overflow "Python int too large to convert to C ssize_t"
  let req := match width with
    | some n => { req with width := some n.natAbs, left := req.left || n < 0 }
    | none => req
  let (req, s, r) ← match r with
    | '.' :: q => do
      let (n, s, q) ← readNumber "precision" 0x7fffffff s q
      if 0x7fffffff < n.getD 0 || n.getD 0 < -0x80000000 then
        Exec.overflow "Python int too large to convert to C int"
      pure ({ req with precision := some (n.getD 0).toNat }, s, q)
    | q => pure (req, s, q)
  let r := match r with
    | c :: q => if c == 'h' || c == 'l' || c == 'L' then q else c :: q
    | [] => []
  match r with
  | [] => Exec.valueError "incomplete format"
  | k :: r =>
    let (v, s) ← take s
    return (← conversion e inBytes req k (length - r.length - 1) v, s, r)

/-- Replaces the percent signs in the rest of a text of a length by the values supplied; each step
uses up a character. -/
def percentFrom (e : Engine) (inBytes : Bool) (length : Nat) (mapping : Option Value) :
    Nat → Supply → List Char → List Char → Exec (List Char)
  | 0, _, _, done => pure done.reverse
  | _ + 1, s, [], done => do
    if s.left.isEmpty || s.spare then pure done.reverse
    else
      Exec.typeError ("not all arguments converted during " ++
        (if inBytes then "bytes" else "string") ++ " formatting")
  | n + 1, s, '%' :: '%' :: r, done => percentFrom e inBytes length mapping n s r ('%' :: done)
  | n + 1, s, '%' :: r, done => do
    let (text, s, r) ← directive e inBytes length s mapping r
    percentFrom e inBytes length mapping n s r (text.reverse ++ done)
  | n + 1, s, c :: r, done => percentFrom e inBytes length mapping n s r (c :: done)

/-- Whether percent signs may take values by key from a value. -/
def isMapping (v : Value) : Exec Bool := do
  match ← Typing.unboxed v with
  | .tuple _ | .str _ => pure false
  | .bytes _ | .range _ _ _ | .generic _ _ | .union _ => pure true
  | .object a =>
    match ← Exec.dataAt a with
    | .list _ | .dict _ | .bytearray _ | .zeros _ | .proxy _ => pure true
    | _ => return (← Typing.special? v "__getitem__").isSome
  | _ => pure false

/-- Replaces the percent signs of a text, or of bytes as characters, by a value or the items of a
tuple. -/
def percent (e : Engine) (inBytes : Bool) (text : List Char) (v : Value) : Exec (List Char) := do
  let left ← match ← Typing.unboxed v with
    | .tuple items => pure items
    | _ => pure [v]
  let mapping ← isMapping v
  let n := text.length
  percentFrom e inBytes n (if mapping then some v else none) (n + 1) ⟨left, mapping, v⟩ text []

end Exemplar.Machine.Format
