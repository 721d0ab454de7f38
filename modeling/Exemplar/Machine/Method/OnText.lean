import Exemplar.Machine.Codec
import Exemplar.Machine.Format
import Exemplar.Machine.Item
import Exemplar.Machine.Method.Basic
import Exemplar.Text.Cased
import Exemplar.Text.CharSet
import Exemplar.Text.Identifier
import Exemplar.Text.Lines

/-
  Texts with fields in braces. A field names an argument by place or by name and follows attributes
  and items from there; then come a conversion and a format, which may hold fields itself. What
  stands before a fault has had its effect when the fault is found.

  Methods of texts: case, searching, splitting and joining, filling up, replacing characters, and
  formats with fields in braces.
-/

namespace Exemplar.Machine.Template

/-- How fields without a name are numbered. -/
inductive Numbering
  | open
  | automatic (next : Nat)
  | manual

/-- Where fields find their values. -/
structure Source where
  /-- Values by place, if there are such. -/
  args : Option (List Value)
  byName : String → Exec Value

/-- A field as it is written. -/
structure Hole where
  name : List Char := []
  conversion : Option Char := none
  spec : List Char := []

/-! ### Reading -/

def takeBracket (done : List Char) : List Char → List Char × List Char
  | [] => (done, [])
  | c :: r => if c == ']' then (done, c :: r) else takeBracket (c :: done) r

/-- The name of a field up to what ends it; `done` is the part so far, backwards. -/
def readName : Nat → List Char → List Char → Except String (List Char × Option Char × List Char)
  | 0, done, _ => .ok (done.reverse, none, [])
  | _, done, [] => .ok (done.reverse, none, [])
  | n + 1, done, c :: r =>
    if c == '\x7b' then .error "unexpected '\x7b' in field name"
    else if c == '[' then
      let (done, r) := takeBracket (c :: done) r
      readName n done r
    else if c == '\x7d' || c == ':' || c == '!' then .ok (done.reverse, some c, r)
    else readName n (c :: done) r

/-- The format of a field up to the brace that closes it. -/
def readSpec : Nat → List Char → List Char → Except String (List Char × List Char)
  | _, _, [] => .error "unmatched '\x7b' in format spec"
  | depth, done, c :: r =>
    if c == '\x7b' then readSpec (depth + 1) (c :: done) r
    else if c == '\x7d' then
      match depth with
      | 0 => .ok (done.reverse, r)
      | d + 1 => readSpec d (c :: done) r
    else readSpec depth (c :: done) r

/-- A field behind its opening brace, with what follows it. -/
def readHole (s : List Char) : Except String (Hole × List Char) := do
  let (name, stop, r) ← readName s.length [] s
  let finish (conversion : Option Char) (r : List Char) : Except String (Hole × List Char) := do
    let (spec, r) ← readSpec 0 [] r
    pure (⟨name, conversion, spec⟩, r)
  match stop, r with
  | some '\x7d', r => pure (⟨name, none, []⟩, r)
  | some ':', r => finish none r
  | some _, [] => .error "end of string while looking for conversion specifier"
  | some _, c :: '\x7d' :: r => pure (⟨name, some c, []⟩, r)
  | some _, c :: ':' :: r => finish (some c) r
  | some _, [c] => finish (some c) []
  | some _, _ => .error "expected ':' after conversion specifier"
  | none, _ => .error "expected '\x7d' before end of string"

/-! ### Values of fields -/

/-- The number that digits are, if they are nothing else. -/
def number? (s : List Char) : Except String (Option Nat) :=
  if s.isEmpty then .ok none
  else match s.mapM Text.digitValue? with
    | none => .ok none
    | some ds =>
      let n := ds.foldl (fun n d => 10 * n + d) 0
      if 0x7fffffffffffffff < n then .error "Too many decimal digits in format string"
      else .ok (some n)

def checked {α : Type} : Except String α → Exec α
  | .ok v => pure v
  | .error m => Exec.valueError m

/-- Where the first part of a name leads, with the numbering behind it. -/
def first (source : Source) (numbering : Numbering) (name : List Char) :
    Exec (Value × Numbering) := do
  let byPlace (i : Nat) : Exec Value := do
    match source.args with
    | none => Exec.valueError "Format string contains positional fields"
    | some args =>
      match args[i]? with
      | some v => pure v
      | none =>
        Exec.raise "IndexError" ("Replacement index " ++ toString i ++
          " out of range for positional args tuple")
  match ← checked (number? name), name.isEmpty, numbering with
  | none, false, _ => return (← source.byName (String.ofList name), numbering)
  | _, true, .manual =>
    Exec.valueError
      "cannot switch from manual field specification to automatic field numbering"
  | some _, _, .automatic _ =>
    Exec.valueError
      "cannot switch from automatic field numbering to manual field specification"
  | some i, _, _ => return (← byPlace i, .manual)
  | none, true, .automatic i => return (← byPlace i, .automatic (i + 1))
  | none, true, .open => return (← byPlace 0, .automatic 1)

/-- Follows the attributes and items behind the first part of a name. -/
def follow (e : Engine) : Nat → Value → List Char → Exec Value
  | 0, v, _ => pure v
  | _, v, [] => pure v
  | n + 1, v, '.' :: r => do
    let name := r.takeWhile fun c => c != '.' && c != '['
    if name.isEmpty then Exec.valueError "Empty attribute in format string"
    follow e n (← Attribute.get e v (String.ofList name)) (r.drop name.length)
  | n + 1, v, '[' :: r => do
    let key := r.takeWhile (· != ']')
    match r.drop key.length with
    | [] => Exec.valueError "Missing ']' in format string"
    | _ :: rest =>
      let i ← checked (number? key)
      if key.isEmpty then Exec.valueError "Empty attribute in format string"
      let index : Value := match i with
        | some i => .int i
        | none => .str (String.ofList key)
      follow e n (← Item.get e v index) rest
  | _, _, _ => Exec.valueError "Only '.' or '[' may follow ']' in format field specifier"

/-- A value as its conversion asks. -/
def convert (e : Engine) (v : Value) : Option Char → Exec Value
  | none => pure v
  | some 'r' => do return .str (← e.quoted v)
  | some 's' => do return .str (← Show.plain e v)
  | some 'a' => do return .str (Format.asciiText (← e.quoted v))
  | some c =>
    let n := c.toNat
    let shown := if 32 < n && n < 127 then String.singleton c
      else "\\x" ++ String.ofList (Nat.toDigits 16 n)
    Exec.valueError ("Unknown conversion specifier " ++ shown)

/-! ### Filling in -/

/-- Looks at the start of a text: plain characters and, behind them, whether a field follows. -/
def literal : Nat → List Char → List Char → Except String (List Char × Bool × List Char)
  | 0, done, r => .ok (done.reverse, false, r)
  | _, done, [] => .ok (done.reverse, false, [])
  | n + 1, done, c :: r =>
    if c == '\x7d' then
      match r with
      | '\x7d' :: r => literal n (c :: done) r
      | _ => .error "Single '\x7d' encountered in format string"
    else if c == '\x7b' then
      match r with
      | [] => .error "Single '\x7b' encountered in format string"
      | '\x7b' :: r => literal n (c :: done) r
      | r => .ok (done.reverse, true, r)
    else literal n (c :: done) r

mutual

/-- The text that fields come to, with the numbering behind it. The first number bounds how deep
fields stand in formats, the second one the steps. -/
def fill (e : Engine) (source : Source) :
    Nat → Nat → Numbering → List Char → Exec (String × Numbering)
  | 0, _, _, _ => Exec.valueError "Max string recursion exceeded"
  | _, 0, numbering, _ => pure ("", numbering)
  | depth + 1, n + 1, numbering, s => do
    let (front, isField, r) ← checked (literal s.length [] s)
    if !isField then return (String.ofList front, numbering)
    let (hole, r) ← checked (readHole r)
    let (shown, numbering) ← field e source depth n numbering hole
    let (rest, numbering) ← fill e source (depth + 1) n numbering r
    pure (String.ofList front ++ shown ++ rest, numbering)

/-- The text that one field comes to. -/
def field (e : Engine) (source : Source) :
    Nat → Nat → Numbering → Hole → Exec (String × Numbering)
  | _, 0, numbering, _ => pure ("", numbering)
  | depth, n + 1, numbering, hole => do
    let name := hole.name.takeWhile fun c => c != '.' && c != '['
    let (v, numbering) ← first source numbering name
    let v ← follow e (hole.name.length + 1) v (hole.name.drop name.length)
    let v ← convert e v hole.conversion
    let (spec, numbering) ←
      if hole.spec.contains '\x7b' then fill e source depth n numbering hole.spec
      else pure (String.ofList hole.spec, numbering)
    return (← Format.value e v spec, numbering)

end

/-- A text with its fields filled in. -/
def format (e : Engine) (source : Source) (s : List Char) : Exec String := do
  return (← fill e source 2 (2 * s.length + 4) .open s).1

end Exemplar.Machine.Template

namespace Exemplar.Machine.Method.OnText

/-- The text that an argument is. -/
def text (v : Value) : Exec (List Char) := do
  match ← Typing.unboxed v with
  | .str s => pure s.toList
  | _ => Exec.typeError ("must be str, not " ++ (← Typing.word v))

def back (cs : List Char) : Exec Value := pure (.str (String.ofList cs))

def valueOf (cs : List Char) : Value := .str (String.ofList cs)

/-- The two places that bound a search, where they are given. -/
def bounds (e : Engine) (p : Passed) : Exec (Option Int × Option Int) := do
  p.taking 1 3
  let start ← Item.slicePart e (p.arg 1)
  return (start, ← Item.slicePart e (p.arg 2))

/-- Whether a text starts or ends with one of several. -/
def attached (e : Engine) (s : List Char) (p : Passed) : Exec Bool := do
  let atEnd := p.short == "endswith"
  let (start, stop) ← bounds e p
  let here (t : String) : Bool :=
    match (Search.section? s start stop).2 with
    | none => false
    | some part =>
      if atEnd then t.toList.reverse.isPrefixOf part.reverse else t.toList.isPrefixOf part
  match ← Typing.unboxed (p.arg 0) with
  | .str t => pure (here t)
  | .tuple items =>
    items.anyM fun v => do
      match ← Typing.unboxed v with
      | .str t => pure (here t)
      | _ =>
        Exec.typeError ("tuple for " ++ p.short ++ " must only contain str, not " ++
          (← Typing.word v))
  | _ =>
    Exec.typeError (p.short ++ " first arg must be str or a tuple of str, not " ++
      (← Typing.word (p.arg 0)))

/-- Where a text stands in another one. -/
def find (e : Engine) (s : List Char) (p : Passed) : Exec Value := do
  let (start, stop) ← bounds e p
  let part ← text (p.arg 0)
  let (offset, section?) := Search.section? s start stop
  let found := section?.bind fun within =>
    if p.short.startsWith "r" then Search.last? part within else Search.first? part within
  match found with
  | some i => pure (.int (offset + i))
  | none =>
    if p.short.endsWith "find" then pure (.int (-1)) else Exec.valueError "substring not found"

/-- The character that a text is filled up with. -/
def filler (v? : Option Value) : Exec Char := do
  match v? with
  | none => pure ' '
  | some v =>
    match ← Typing.unboxed v with
    | .str t =>
      match t.toList with
      | [c] => pure c
      | _ => Exec.typeError "The fill character must be exactly one character long"
    | _ =>
      Exec.typeError ("The fill character must be a unicode character, not " ++ (← Typing.word v))

/-- A text between the items of an iterable. -/
def join (e : Engine) (s : String) (v : Value) : Exec Value := do
  match ← Iterate.iter? e v with
  | none => Exec.typeError "can only join an iterable"
  | some _ =>
    let items ← Iterate.collect e v
    let texts ← items.zipIdx.mapM fun (v, i) => do
      match ← Typing.unboxed v with
      | .str t => pure t
      | _ =>
        Exec.typeError ("sequence item " ++ toString i ++ ": expected str instance, " ++
          (← Typing.word v) ++ " found")
    pure (.str (s.intercalate texts))

/-- The separator and the number of cuts that a method is given. -/
def splitting (e : Engine) (s : List Char) (p : Passed) : Exec (Option (List Char) × Nat) := do
  let given ← p.fill ["sep", "maxsplit"] 0 2
  let cuts := Search.cutsOf s (← sizeOr e (-1) (given.getD 1 none))
  match given.getD 0 none with
  | none | some .none => pure (none, cuts)
  | some v =>
    match ← Typing.unboxed v with
    | .str t =>
      if t.isEmpty then Exec.valueError "empty separator"
      pure (some t.toList, cuts)
    | _ => Exec.typeError ("must be str or None, not " ++ (← Typing.word v))

/-- The encoding and the rule for errors that a method is given. -/
def encodingOf (p : Passed) : Exec (String × String) := do
  let given ← p.fill ["encoding", "errors"] 0 2
  let part (place : Nat) (name otherwise : String) : Exec String := do
    match given.getD place none with
    | none => pure otherwise
    | some v => p.text ("argument '" ++ name ++ "'") v
  return (← part 0 "encoding" "utf-8", ← part 1 "errors" "strict")

/-- What a table has for a character: another one, a text, or nothing. -/
def translated (e : Engine) (table : Value) (c : Char) : Exec (List Char) := do
  match ← Typing.absorbing "LookupError" (Item.get e table (.int c.toNat)) with
  | none => pure [c]
  | some .none => pure []
  | some v =>
    match ← Typing.unboxed v with
    | .str t => pure t.toList
    | w =>
      match w.int? with
      | some n =>
        if n < 0 || 0x110000 ≤ n then
          Exec.valueError "character mapping must be in range(0x110000)"
        pure [Char.ofNat n.toNat]
      | none => Exec.typeError "character mapping must return integer, None or str"

/-- A table for `translate` from one dictionary, or from texts of characters. -/
def makeTable (e : Engine) (p : Passed) : Exec Value := do
  p.between 1 3
  match p.args with
  | [x] =>
    match x, ← Exec.data? x, ← Typing.of x with
    | _, some (.dict t), .kind .dict =>
      let pairs ← t.toList.mapM fun entry => do
        match ← Typing.unboxed entry.key with
        | .str s =>
          match s.toList with
          | [c] => pure (Value.int c.toNat, entry.value)
          | _ => Exec.valueError "string keys in translate table must be of length 1"
        | k =>
          if k.int?.isSome then pure (entry.key, entry.value)
          else Exec.typeError "keys in translate table must be strings or integers"
      Mapping.ofPairs e pairs
    | _, _, _ =>
      Exec.typeError "if you give only one argument to maketrans it must be a dict"
  | args =>
    let target ← p.text "argument 2" (p.arg 1)
    let gone ← match args[2]? with
      | some z => p.text "argument 3" z
      | none => pure ""
    match ← Typing.unboxed (p.arg 0) with
    | .str source =>
      if source.length != target.length then
        Exec.valueError "the first two maketrans arguments must have equal length"
      let code (c : Char) : Value := .int c.toNat
      Mapping.ofPairs e ((source.toList.zip target.toList).map (fun (a, b) => (code a, code b)) ++
        gone.toList.map fun c => (code c, .none))
    | _ =>
      Exec.typeError
        "first maketrans argument must be a string if there is a second argument"

/-- Whether all characters are as asked and there is one. -/
def all (p : Char → Bool) (s : List Char) : Value := .bool (!s.isEmpty && s.all p)

/-- Methods of a text that take no argument. -/
def simple : List (String × (List Char → Value)) :=
  [("upper", fun s => valueOf (s.flatMap Text.upperChar)),
   ("lower", fun s => valueOf (Text.lowerFrom [] s)),
   ("casefold", fun s => valueOf (Text.foldCase s)),
   ("title", fun s => valueOf (Text.titleFrom [] s)),
   ("capitalize", fun s => valueOf (match s with
      | [] => []
      | c :: r => Text.titleChar c ++ Text.lowerFrom [c] r)),
   ("swapcase", fun s => valueOf (Text.swapCase [] s)),
   ("isalpha", all Text.isLetter),
   ("isdecimal", all fun c => (Text.digitValue? c).isSome),
   ("isdigit", all Text.isDigitSign),
   ("isnumeric", all Text.isNumeral),
   ("isalnum", all fun c => Text.isWordChar c && c != '_'),
   ("isspace", all Text.isBlank),
   ("isupper", fun s => .bool (Text.allCased Text.isCapital s)),
   ("islower", fun s => .bool (Text.allCased Text.isSmall s)),
   ("istitle", fun s => .bool (Text.isTitled s)),
   ("isascii", fun s => .bool (s.all fun c => c.toNat < 128)),
   ("isprintable", fun s => .bool (s.all Text.isPrintable)),
   ("isidentifier", fun s => .bool (match s with
      | [] => false
      | c :: r => Text.isIdentifierStart c && r.all Text.isIdentifierContinue))]

/-- Calls a method of a text. -/
def call (e : Engine) (whole : String) (p : Passed) : Exec Value := do
  let s := whole.toList
  match simple.lookup p.short with
  | some f =>
    p.nothing
    pure (f s)
  | none =>
  match p.short with
  | "format" =>
    let byName (n : String) : Exec Value := do
      match p.named.lookup n with
      | some v => pure v
      | none => Exec.raiseArgs "KeyError" [.str n]
    return .str (← Template.format e ⟨some p.args, byName⟩ s)
  | "format_map" =>
    let mapping ← p.one
    return .str (← Template.format e ⟨none, fun n => Item.get e mapping (.str n)⟩ s)
  | "split" | "rsplit" =>
    let (separator, cuts) ← splitting e s p
    let parts := if p.short == "split" then Search.split Text.isBlank s separator cuts
      else Search.splitLast Text.isBlank s separator cuts
    listOf (parts.map valueOf)
  | "splitlines" =>
    let keep ← match (← p.fill ["keepends"] 0 1).getD 0 none with
      | some v => (· != 0) <$> Measure.smallArgument e v
      | none => pure false
    listOf ((if keep then Text.linesWithEnds s else Text.splitLines s).map valueOf)
  | "expandtabs" =>
    let width ← match (← p.fill ["tabsize"] 0 1).getD 0 none with
      | some v => Measure.smallArgument e v
      | none => pure 8
    back (if width ≤ 0 then s.filter (· != '\t') else Text.expandTabs width.toNat 0 s)
  | "encode" =>
    let (encoding, rule) ← encodingOf p
    return .bytes (← Codec.encode encoding rule whole)
  | "join" => do join e whole (← p.one)
  | "strip" | "lstrip" | "rstrip" =>
    p.between 0 1
    let drop ← match ← Typing.unboxed (p.arg 0) with
      | .none => pure Text.isBlank
      | .str t => pure fun c => t.toList.contains c
      | _ => Exec.typeError (p.short ++ " arg must be None or str")
    back (Search.strip (p.short != "rstrip") (p.short != "lstrip") drop s)
  | "replace" =>
    p.between 2 3
    let old ← p.text "argument 1" (p.arg 0)
    let new ← p.text "argument 2" (p.arg 1)
    let n ← sizeOr e (-1) (p.arg? 2)
    back (Search.replace s old.toList new.toList (Search.cutsOf s n))
  | "find" | "index" | "rfind" | "rindex" => find e s p
  | "count" =>
    let (start, stop) ← bounds e p
    let part ← text (p.arg 0)
    let n := (Search.section? s start stop).2.elim 0 (Search.count part)
    pure (.int n)
  | "startswith" | "endswith" => return .bool (← attached e s p)
  | "ljust" | "rjust" | "center" =>
    p.between 1 2
    let width ← Measure.sizeArgument e (p.arg 0)
    back (Search.fill p.short s width (← filler (p.arg? 1)))
  | "zfill" =>
    let width ← Measure.sizeArgument e (← p.one)
    back (Search.zeroFill '+' '-' '0' s width)
  | "partition" | "rpartition" =>
    let part ← text (← p.one)
    if part.isEmpty then Exec.valueError "empty separator"
    pure (.tuple ((Search.partition (p.short == "rpartition") part s).map valueOf))
  | "removeprefix" | "removesuffix" =>
    let part ← p.text "argument" (← p.one)
    back (Search.removed (p.short == "removesuffix") part.toList s)
  | "translate" =>
    let table ← p.one
    back ((← s.mapM (translated e table)).flatten)
  | "__getnewargs__" =>
    p.nothing
    pure (.tuple [.str whole])
  | "__sizeof__" => pure (.int (49 + s.length))
  | _ => unsupported p.full

end Exemplar.Machine.Method.OnText
