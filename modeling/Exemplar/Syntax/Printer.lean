import Exemplar.Decimal.Binary64
import Exemplar.Decimal.Numeral
import Exemplar.Syntax.Expr
import Exemplar.Text.Quoted

/-
  Expressions as source text. Every expression has one text: single blanks around operators,
  parentheses only where the strength of the operators asks for them, texts quoted as `quote` does.

  Expressions that have no text. An integer may have too many digits, and between the braces of a
  formatted text no backslash can stand. Of two reasons the one counts that is met first in the
  order of the text.
-/

namespace Exemplar.Syntax

open Exemplar.Text

/-- How strongly an expression binds, weakest first. -/
inductive Strength
  | named | tuple | yield | test | or | and | not | compare | bitOr | bitXor | bitAnd | shift
  | arith | term | factor | power | await | atom
  deriving DecidableEq

namespace Strength

def level : Strength → Nat
  | named => 0 | tuple => 1 | yield => 2 | test => 3 | or => 4 | and => 5 | not => 6 | compare => 7
  | bitOr => 8 | bitXor => 9 | bitAnd => 10 | shift => 11 | arith => 12 | term => 13
  | factor => 14 | power => 15 | await => 16 | atom => 17

end Strength

def unaryText : UnaryOp → String
  | .invert => "~" | .not => "not " | .plus => "+" | .minus => "-"

def unaryStrength : UnaryOp → Strength
  | .not => .not
  | _ => .factor

def binaryText : BinaryOp → String
  | .add => "+" | .sub => "-" | .mult => "*" | .matMult => "@" | .div => "/" | .mod => "%"
  | .pow => "**" | .shiftLeft => "<<" | .shiftRight => ">>" | .bitOr => "|" | .bitXor => "^"
  | .bitAnd => "&" | .floorDiv => "//"

def binaryStrength : BinaryOp → Strength
  | .add | .sub => .arith
  | .mult | .matMult | .div | .mod | .floorDiv => .term
  | .pow => .power
  | .shiftLeft | .shiftRight => .shift
  | .bitOr => .bitOr
  | .bitXor => .bitXor
  | .bitAnd => .bitAnd

def boolText : BoolOp → String
  | .and => "and" | .or => "or"

def boolStrength : BoolOp → Strength
  | .and => .and
  | .or => .or

def compareText : CompareOp → String
  | .eq => "==" | .notEq => "!=" | .lt => "<" | .le => "<=" | .gt => ">" | .ge => ">="
  | .is => "is" | .isNot => "is not" | .isIn => "in" | .notIn => "not in"

/-- `s` in parentheses if `p`. -/
def parenthesized (p : Bool) (s : List Char) : List Char :=
  if p then '(' :: s ++ [')'] else s

/-- A level above `n`, up to the strongest. -/
def above (n : Nat) : Nat := Nat.min (n + 1) Strength.atom.level

/-- An overflowing decimal stands for infinity, and the difference of two for no number. -/
def floatSource (x : Binary64) : String :=
  if x.isNaN then "(1e309-1e309)"
  else if x.isInfinite then (if x.negative then "-1e309" else "1e309")
  else Decimal.floatText x

/-- The digits of an imaginary number, without a point when there is no fraction. -/
def imaginaryDigits (x : Binary64) : String :=
  let s := (Decimal.floatText x).toList
  if s.reverse.take 2 == ['0', '.'] then String.ofList (s.take (s.length - 2)) else String.ofList s

def imaginarySource (x : Binary64) : String :=
  if x.isInfinite then floatSource x ++ "j"
  else if x.isNaN then "(1e309-1e309)j"
  else imaginaryDigits x ++ "j"

/-! Formatted texts choose a quote that no part needs to escape. -/

/-- The quotes to choose from, in order of preference. -/
def allQuotes : List (List Char) := [['\''], ['"'], ['"', '"', '"'], ['\'', '\'', '\'']]

/-- Whether `part` occurs in `s`. -/
def occursIn (part : List Char) : List Char → Bool
  | [] => part.isEmpty
  | c :: r => part.isPrefixOf (c :: r) || occursIn part r

/-- One character of a text that may span lines; line feeds and tabs stay unless `whitespace`. -/
def escapeIn (whitespace : Bool) (c : Char) : List Char :=
  if !whitespace && (c == '\n' || c == '\t') then [c]
  else if c == '\\' || !isPrintable c then quoteChar '\\' c
  else [c]

/-- A text to stand between one of the quotes, and the quotes that remain possible. When all are
excluded the text is escaped for the first that fits. -/
def chooseQuotes (s : List Char) (quotes : List (List Char)) (whitespace : Bool) :
    List Char × List (List Char) :=
  let escaped := s.flatMap (escapeIn whitespace)
  let possible := if escaped.contains '\n' then quotes.filter (·.length == 3) else quotes
  let possible := possible.filter fun q => !occursIn q escaped
  match possible with
  | [] =>
    let q := quoteFor s
    let kept := (quotes.find? fun k => k.contains q).getD [q]
    (s.flatMap (quoteChar q), [kept])
  | _ =>
    match escaped.getLast? with
    | none => (escaped, possible)
    | some last =>
      let endsAs := fun (q : List Char) => q.head? == some last
      let possible := possible.filter (!endsAs ·) ++ possible.filter endsAs
      if possible.head?.any endsAs then (escaped.dropLast ++ ['\\', last], possible)
      else (escaped, possible)

/-- A text quoted with as few escapes as possible. -/
def quoteSparing (s : List Char) : List Char :=
  let (body, quotes) := chooseQuotes s allQuotes false
  let q := quotes.headD ['\'']
  q ++ body ++ q

/-- A formatted text from its parts and whether each is constant. -/
def quoteParts (parts : List (List Char × Bool)) : List Char :=
  let (body, quotes) := parts.foldl (fun (done, quotes) (part, isConstant) =>
    let (text, quotes) := chooseQuotes part quotes isConstant
    (done ++ text, quotes)) ([], allQuotes)
  let q := quotes.headD ['\'']
  q ++ body ++ q

/-- Braces in a formatted text are written twice. -/
def doubleBraces (s : List Char) : List Char :=
  s.flatMap fun c => if c == '\x7b' || c == '\x7d' then [c, c] else [c]

/-- A constant; `sparing` asks for texts with few escapes. -/
def constantText (sparing : Bool) : Constant → List Char
  | .none => "None".toList
  | .ellipsis => "...".toList
  | .bool b => (if b then "True" else "False").toList
  | .int n => (toString n).toList
  | .float x => (floatSource x).toList
  | .imaginary x => (imaginarySource x).toList
  | .str s marked =>
    (if marked then ['u'] else []) ++ if sparing then quoteSparing s.toList else (quote s).toList
  | .bytes b => (quoteBytes b).toList

/-- Parts with `sep` between them. -/
def joinWith (sep : String) : List (List Char) → List Char
  | [] => []
  | [x] => x
  | x :: xs => x ++ sep.toList ++ joinWith sep xs

/-- Which parts of a formatted text are constant. -/
def areConstant : List Expr → List Bool
  | [] => []
  | .const (.str _ _) :: es => true :: areConstant es
  | .formatted _ _ _ :: es => false :: areConstant es
  | .joined _ :: es => false :: areConstant es
  | _ :: es => areConstant es

/-- A replacement field of a formatted text. -/
def replacement (body : List Char) (conversion : Option Char) (spec : Option (List Char)) :
    List Char :=
  '\x7b' :: (if body.head? == some '\x7b' then [' '] else []) ++ body ++
    (match conversion with
      | none => []
      | some c => ['!', c]) ++
    (match spec with
      | none => []
      | some s => ':' :: s) ++ ['\x7d']

/-- Items of a tuple without its parentheses: one item keeps its comma. -/
def tupleItems : List (List Char) → List Char
  | [x] => x ++ [',']
  | xs => joinWith ", " xs

/-- Parameters with the marks that part their kinds. -/
def arrangeParameters (ps : List (ParameterKind × List Char)) : List Char :=
  let ofKind := fun k => (ps.filter (·.1 == k)).map (·.2)
  let positional := ofKind .positionalOnly
  let star := match ofKind .variadic with
    | v :: _ => [['*'] ++ v]
    | [] => if (ofKind .keywordOnly).isEmpty then [] else [['*']]
  joinWith ", " (positional ++ (if positional.isEmpty then [] else [['/']]) ++ ofKind .ordinary ++
    star ++ ofKind .keywordOnly ++ (ofKind .keywordVariadic).map (['*', '*'] ++ ·))

mutual

/-- The text of an expression whose surroundings bind with `level`. -/
def printAt (sparing : Bool) (level : Nat) : Expr → List Char
  | .const c => constantText sparing c
  | .name id => id.toList
  | .attribute value attr =>
    let gap := match value with
      | .const (.int _) | .const (.bool _) => [' ']
      | _ => []
    printAt sparing Strength.atom.level value ++ gap ++ '.' :: attr.toList
  | .subscript value index =>
    printAt sparing Strength.atom.level value ++ '[' :: (match index with
      | .tuple (x :: xs) => tupleItems (printList sparing (x :: xs))
      | index => printAt sparing Strength.test.level index) ++ [']']
  | .call func args keywords =>
    printAt sparing Strength.atom.level func ++ '(' ::
      joinWith ", " (printList sparing args ++ printKeywords sparing keywords) ++ [')']
  | .unary op operand =>
    let own := (unaryStrength op).level
    parenthesized (own < level) ((unaryText op).toList ++ printAt sparing own operand)
  | .binary left op right =>
    let own := (binaryStrength op).level
    let (l, r) := if op == .pow then (above own, own) else (own, above own)
    parenthesized (own < level)
      (printAt sparing l left ++ ' ' :: (binaryText op).toList ++ ' ' :: printAt sparing r right)
  | .bool op values =>
    let own := (boolStrength op).level
    parenthesized (own < level)
      (joinWith (" " ++ boolText op ++ " ") (printRising sparing (above own) values))
  | .compare left rest =>
    let own := Strength.compare.level
    parenthesized (own < level)
      (printAt sparing (above own) left ++ printComparisons sparing (above own) rest)
  | .conditional test body orelse =>
    let own := Strength.test.level
    parenthesized (own < level)
      (printAt sparing (above own) body ++ " if ".toList ++ printAt sparing (above own) test ++
        " else ".toList ++ printAt sparing own orelse)
  | .lambda params body =>
    let own := Strength.test.level
    let ps := arrangeParameters (printParameterList sparing params)
    parenthesized (own < level)
      ("lambda".toList ++ (if ps.isEmpty then [] else ' ' :: ps) ++ ':' :: ' ' ::
        printAt sparing own body)
  | .list items => '[' :: joinWith ", " (printList sparing items) ++ [']']
  | .tuple items => '(' :: tupleItems (printList sparing items) ++ [')']
  | .set items =>
    if items.isEmpty then "\x7b*()\x7d".toList
    else '\x7b' :: joinWith ", " (printList sparing items) ++ ['\x7d']
  | .dict entries => '\x7b' :: joinWith ", " (printEntries sparing entries) ++ ['\x7d']
  | .listComp element clauses =>
    '[' :: printAt sparing Strength.test.level element ++ printClauses sparing clauses ++ [']']
  | .setComp element clauses =>
    '\x7b' :: printAt sparing Strength.test.level element ++ printClauses sparing clauses ++
      ['\x7d']
  | .generator element clauses =>
    '(' :: printAt sparing Strength.test.level element ++ printClauses sparing clauses ++ [')']
  | .dictComp key value clauses =>
    '\x7b' :: printAt sparing Strength.test.level key ++ ':' :: ' ' ::
      printAt sparing Strength.test.level value ++ printClauses sparing clauses ++ ['\x7d']
  | .await value =>
    parenthesized (Strength.await.level < level)
      ("await ".toList ++ printAt sparing Strength.atom.level value)
  | .yield value =>
    parenthesized (Strength.yield.level < level)
      ("yield".toList ++ match value with
        | none => []
        | some v => ' ' :: printAt sparing Strength.atom.level v)
  | .yieldFrom value =>
    parenthesized (Strength.yield.level < level)
      ("yield from ".toList ++ printAt sparing Strength.atom.level value)
  | .named target value =>
    parenthesized (Strength.named.level < level)
      (target.toList ++ " := ".toList ++ printAt sparing Strength.atom.level value)
  | .starred value => '*' :: printAt sparing Strength.bitOr.level value
  | .slice lower upper step =>
    (match lower with
      | none => []
      | some e => printAt sparing Strength.test.level e) ++ ':' ::
    (match upper with
      | none => []
      | some e => printAt sparing Strength.test.level e) ++
    (match step with
      | none => []
      | some e => ':' :: printAt sparing Strength.test.level e)
  | .joined parts =>
    'f' :: (if sparing then quoteSparing (joinWith "" (printInner parts))
      else quoteParts ((printInner parts).zip (areConstant parts)))
  | .formatted value conversion spec =>
    'f' :: quoteSparing
      (replacement (printAt true Strength.or.level value) conversion (printSpec spec))

def printList (sparing : Bool) : List Expr → List (List Char)
  | [] => []
  | e :: es => printAt sparing Strength.test.level e :: printList sparing es

/-- Each value at a level above that of the one before. -/
def printRising (sparing : Bool) (level : Nat) : List Expr → List (List Char)
  | [] => []
  | e :: es => printAt sparing level e :: printRising sparing (above level) es

def printComparisons (sparing : Bool) (level : Nat) : List (CompareOp × Expr) → List Char
  | [] => []
  | (op, e) :: es =>
    ' ' :: (compareText op).toList ++ ' ' :: printAt sparing level e ++
      printComparisons sparing level es

def printEntries (sparing : Bool) : List (Option Expr × Expr) → List (List Char)
  | [] => []
  | (none, v) :: es =>
    ('*' :: '*' :: printAt sparing Strength.bitOr.level v) :: printEntries sparing es
  | (some k, v) :: es =>
    (printAt sparing Strength.test.level k ++
      ':' :: ' ' :: printAt sparing Strength.test.level v) ::
      printEntries sparing es

def printKeywords (sparing : Bool) : List Keyword → List (List Char)
  | [] => []
  | .mk name value :: ks =>
    ((match name with
      | none => ['*', '*']
      | some n => n.toList ++ ['=']) ++ printAt sparing Strength.test.level value) ::
      printKeywords sparing ks

def printClauses (sparing : Bool) : List Clause → List Char
  | [] => []
  | .mk isAsync target iter conditions :: cs =>
    (if isAsync then " async for " else " for ").toList ++
      (match target with
        | .tuple (x :: xs) => tupleItems (printList sparing (x :: xs))
        | target => printAt sparing Strength.tuple.level target) ++ " in ".toList ++
      printAt sparing Strength.or.level iter ++ printConditions sparing conditions ++
      printClauses sparing cs

def printConditions (sparing : Bool) : List Expr → List Char
  | [] => []
  | e :: es => " if ".toList ++ printAt sparing Strength.or.level e ++ printConditions sparing es

/-- A parameter with its hint and default. -/
def printParameter (sparing : Bool) : Parameter → List Char
  | .mk _ name hint default =>
    name.toList ++
      (match hint with
        | none => []
        | some a => ':' :: ' ' :: printAt sparing Strength.test.level a) ++
      (match default with
        | none => []
        | some d => '=' :: printAt sparing Strength.test.level d)

def printParameterList (sparing : Bool) : List Parameter → List (ParameterKind × List Char)
  | [] => []
  | p :: ps => (p.kind, printParameter sparing p) :: printParameterList sparing ps

/-- The parts of a formatted text, before the choice of a quote. -/
def printInner : List Expr → List (List Char)
  | [] => []
  | .const (.str s _) :: es => doubleBraces s.toList :: printInner es
  | .formatted value conversion spec :: es =>
    replacement (printAt true Strength.or.level value) conversion (printSpec spec) ::
      printInner es
  | .joined parts :: es => joinWith "" (printInner parts) :: printInner es
  | _ :: es => printInner es

/-- The text after the colon of a replacement field. -/
def printSpec : Option Expr → Option (List Char)
  | none => none
  | some (.joined parts) => some (joinWith "" (printInner parts))
  | some _ => some []

end

/-- The text of an expression. -/
def print (e : Expr) : String := String.ofList (printAt false Strength.test.level e)

end Exemplar.Syntax

namespace Exemplar.Syntax

/-! ## Expressions without a text -/

/-- Why an expression has no text. -/
inductive Unprintable
  | longInteger | backslash
  deriving DecidableEq

namespace Unprintable

def raised : Unprintable → Raised
  | longInteger => Decimal.longInteger
  | backslash => .valueError "Unable to avoid backslash in f-string expression part"

/-- Why a constant has no text. -/
def ofConstant? : Constant → Option Unprintable
  | .int n => if Decimal.isLong n then some .longInteger else none
  | _ => none

/-- The first of two reasons. -/
def first (a : Option Unprintable) (b : Unit → Option Unprintable) : Option Unprintable :=
  match a with
  | some r => some r
  | none => b ()

mutual

/-- The first reason in an expression. -/
def of? : Expr → Option Unprintable
  | .const c => ofConstant? c
  | .name _ => none
  | .attribute v _ => of? v
  | .subscript v i => first (of? v) fun _ => of? i
  | .call f as ks => first (of? f) fun _ => first (ofAll? as) fun _ => ofKeywords? ks
  | .unary _ e => of? e
  | .binary l _ r => first (of? l) fun _ => of? r
  | .bool _ es => ofAll? es
  | .compare l rest => first (of? l) fun _ => ofComparisons? rest
  | .conditional t a b => first (of? a) fun _ => first (of? t) fun _ => of? b
  | .lambda ps b => first (ofParameters? ps) fun _ => of? b
  | .list es | .tuple es | .set es => ofAll? es
  | .dict es => ofEntries? es
  | .listComp e cs | .setComp e cs | .generator e cs => first (of? e) fun _ => ofClauses? cs
  | .dictComp k v cs => first (of? k) fun _ => first (of? v) fun _ => ofClauses? cs
  | .await e | .yieldFrom e | .starred e | .named _ e => of? e
  | .yield e => ofOption? e
  | .slice a b s => first (ofOption? a) fun _ => first (ofOption? b) fun _ => ofOption? s
  | .joined es => ofAll? es
  | .formatted e _ spec =>
    first (of? e) fun _ =>
      if (printAt true Strength.or.level e).contains '\\' then some .backslash else ofOption? spec

def ofAll? : List Expr → Option Unprintable
  | [] => none
  | e :: es => first (of? e) fun _ => ofAll? es

def ofOption? : Option Expr → Option Unprintable
  | none => none
  | some e => of? e

def ofKeywords? : List Keyword → Option Unprintable
  | [] => none
  | .mk _ v :: ks => first (of? v) fun _ => ofKeywords? ks

def ofComparisons? : List (CompareOp × Expr) → Option Unprintable
  | [] => none
  | (_, e) :: r => first (of? e) fun _ => ofComparisons? r

def ofEntries? : List (Option Expr × Expr) → Option Unprintable
  | [] => none
  | (k, v) :: r => first (ofOption? k) fun _ => first (of? v) fun _ => ofEntries? r

def ofClauses? : List Clause → Option Unprintable
  | [] => none
  | .mk _ t i cs :: r =>
    first (of? t) fun _ => first (of? i) fun _ => first (ofAll? cs) fun _ => ofClauses? r

def ofParameters? : List Parameter → Option Unprintable
  | [] => none
  | .mk _ _ h d :: ps =>
    first (ofOption? h) fun _ => first (ofOption? d) fun _ => ofParameters? ps

end

end Unprintable

/-- The text of an expression, or why it has none. -/
def source (e : Expr) : Except Raised String :=
  match Unprintable.of? e with
  | some r => .error r.raised
  | none => .ok (print e)

end Exemplar.Syntax
