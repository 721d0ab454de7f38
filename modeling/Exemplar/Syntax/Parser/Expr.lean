import Exemplar.Syntax.Escape
import Exemplar.Syntax.Parser.Basic
import Exemplar.Syntax.Printer
import Exemplar.Syntax.Tree

/-
  Texts that stand side by side make one expression: a constant, or a formatted text if one of them
  is formatted. The sources in fields are read by a parser that is passed in.

  Parsing expressions by strength. `step self` reads an expression of one strength with `self` for
  the expressions inside it; `expr n` does so through `n` steps. A step into the same tokens goes
  to a stronger level, any other has taken a token, so the tokens bound the steps.
-/

namespace Exemplar.Syntax

/-- A stretch of a formatted text. -/
inductive Piece
  | text (cs : List Char)
  | field (e : Tree)

/-- Stretches as the parts of a formatted text that starts on a line: texts side by side become
one, none is empty. -/
def mergePieces (line : Nat) (marked : Bool) (open' : List Char) : List Piece → List Tree
  | [] => close open'
  | .text cs :: r => mergePieces line marked (open' ++ cs) r
  | .field e :: r => close open' ++ e :: mergePieces line marked [] r
where
  close (cs : List Char) : List Tree :=
    if cs.isEmpty then [] else [.mk line (.const (.str (String.ofList cs) marked))]

mutual

/-- A part of a text that starts on a line as stretches, if nothing in it is broken. `parse` reads
the source of a field that stands some lines below the start of the text. -/
def FormatPart.pieces (line : Nat) (raw marked : Bool) (parse : Nat → List Char → Option Tree) :
    FormatPart → Option (List Piece)
  | .literal body => (textOf raw body).toOption.map fun cs => [.text cs]
  | .field source lines shown conversion spec => do
    let e ← parse lines source
    let spec ← specPieces line raw marked parse spec
    some ((shown.map Piece.text).toList ++ [.field (.mk line (.formatted e conversion spec))])
  | .broken _ => none

def specPieces (line : Nat) (raw marked : Bool) (parse : Nat → List Char → Option Tree) :
    Option (List FormatPart) → Option (Option Tree)
  | none => some none
  | some ps => do
    let pieces ← allPieces line raw marked parse ps
    some (some (.mk line (.joined (mergePieces line marked [] pieces))))

def allPieces (line : Nat) (raw marked : Bool) (parse : Nat → List Char → Option Tree) :
    List FormatPart → Option (List Piece)
  | [] => some []
  | p :: ps => do
    let a ← p.pieces line raw marked parse
    let b ← allPieces line raw marked parse ps
    some (a ++ b)

end

/-- The stretches of a quotation in a text that starts on a line. -/
def Quotation.pieces (line : Nat) (marked : Bool) (parse : Nat → List Char → Option Tree)
    (q : Quotation) : Option (List Piece) :=
  if q.formatted then allPieces line q.raw marked parse q.parts
  else (textOf q.raw q.body).toOption.map fun cs => [.text cs]

/-- The text of stretches without fields. -/
def plainText : List Piece → List Char
  | [] => []
  | .text cs :: r => cs ++ plainText r
  | .field _ :: r => plainText r

/-- The expression of quotations side by side, each with the line it starts on. -/
def concatenate (parse : Nat → List Char → Option Tree) (qs : List (Nat × Quotation)) :
    Option Tree := do
  let first := (qs.head?.map (·.1)).getD 0
  if qs.any (·.2.bytes) then
    if qs.all (·.2.bytes) then
      let bs ← qs.mapM fun (_, q) => (bytesOf q).toOption
      some (.mk first (.const (.bytes bs.flatten)))
    else none
  else
    let marked := qs.head?.any (·.2.marked)
    let ps ← qs.mapM fun (line, q) => q.pieces first marked fun lines => parse (line + lines)
    let ps := ps.flatten
    if qs.any (·.2.formatted) then some (.mk first (.joined (mergePieces first marked [] ps)))
    else some (.mk first (.const (.str (String.ofList (plainText ps)) marked)))

end Exemplar.Syntax

namespace Exemplar.Syntax.Parser

/-- A parser for the expressions of each strength. -/
abbrev Self := Strength → Parser Tree

/-- An expression that starts on the line of the next token. -/
def located (p : Parser Form) : Parser Tree := do
  let l ← line
  return .mk l (← p)

/-! Targets of assignments -/

mutual

/-- Whether a value can be assigned to an expression that is not starred. -/
def isTarget : Tree → Bool
  | .mk _ (.name _) => true
  | .mk _ (.attribute _ _) => true
  | .mk _ (.subscript _ _) => true
  | .mk _ (.tuple xs) => areTargets xs
  | .mk _ (.list xs) => areTargets xs
  | _ => false

/-- Whether values can be assigned to expressions, which may be starred. -/
def areTargets : List Tree → Bool
  | [] => true
  | .mk _ (.starred v) :: es => isTarget v && areTargets es
  | e :: es => isTarget e && areTargets es

end

/-- Whether a value can be assigned to an expression, which may be starred. -/
def isStarTarget (e : Tree) : Bool := areTargets [e]

/-- Whether an expression is a name, an attribute or an item. -/
def isSingleTarget (e : Tree) : Bool :=
  match e.form with
  | .name _ | .attribute _ _ | .subscript _ _ => true
  | _ => false

mutual

/-- Whether an expression can be deleted. -/
def isDeletable : Tree → Bool
  | .mk _ (.name _) => true
  | .mk _ (.attribute _ _) => true
  | .mk _ (.subscript _ _) => true
  | .mk _ (.tuple xs) => areDeletable xs
  | .mk _ (.list xs) => areDeletable xs
  | _ => false

def areDeletable : List Tree → Bool
  | [] => true
  | e :: es => isDeletable e && areDeletable es

end

/-! Items with stars -/

/-- `*` and what it spreads. -/
def starred (self : Self) (level : Strength) : Parser Tree := located do
  sign "*"
  return .starred (← self level)

/-- An expression of a level, or a starred one. -/
def starOr (self : Self) (level : Strength) : Parser Tree := do
  if ← atSign "*" then starred self .bitOr else self level

/-- One expression without a comma stands for itself, any other list for a tuple. -/
def tupleUnlessOne (xs : List Tree × Bool) : Tree :=
  match xs with
  | ([x], false) => x
  | (xs, _) => .mk (xs.headD default).line (.tuple xs)

def starExpressions (self : Self) : Parser Tree :=
  tupleUnlessOne <$> commaList (starOr self .test)

/-- Targets that stand before `in`. -/
def loopTargets (self : Self) : Parser Tree := do
  let e := tupleUnlessOne (← commaList (starOr self .bitOr))
  require (isStarTarget e)
  return e

def yieldExpr (self : Self) : Parser Tree := located do
  word "yield"
  if ← skipWord "from" then return .yieldFrom (← self .test)
  else return .yield (← maybe (self .tuple))

/-- Whether a name with `:=` is next. -/
def atNamed : Parser Bool := return (← peekSecond) == .op ":="

def namedExpr (self : Self) : Parser Tree := do
  if ← atNamed then
    located do
      let target ← name
      sign ":="
      return .named target (← self .test)
  else
    let e ← self .test
    require !(← atSign ":=")
    return e

/-! Comprehensions -/

def atClause : Parser Bool := do
  if ← atWord "for" then return true
  return (← peek) == .word "async" && (← peekSecond) == .word "for"

/-- One `for` of a comprehension. -/
def clause (self : Self) : Parser TreeClause := do
  require (← atClause)
  let isAsync ← skipWord "async"
  word "for"
  let target ← loopTargets self
  word "in"
  let iter ← self .or
  let conditions ← many (do word "if"; self .or)
  return .mk isAsync target iter conditions

def clauses (self : Self) : Parser (List TreeClause) := do
  return (← clause self) :: (← many (clause self))

/-! Parameters -/

/-- How far a list of parameters has come. -/
inductive ParameterPhase
  | front | afterSlash | afterStar | atEnd
  deriving DecidableEq

/-- The parameters so far, the last first; whether one has a default; and whether a bare star awaits
a parameter. -/
structure ParameterState where
  done : List TreeParameter := []
  phase : ParameterPhase := .front
  hasDefault : Bool := false
  bare : Bool := false

/-- A parameter's hint, where hints may stand. -/
def hint (hints : Bool) (level : Parser Tree) : Parser (Option Tree) := do
  if hints && (← atSign ":") then
    sign ":"
    return some (← level)
  else return none

/-- One parameter or mark between parameters. -/
def parameterStep (self : Self) (hints : Bool) (s : ParameterState) : Parser ParameterState := do
  let l ← line
  if ← skipSign "/" then
    require (s.phase == .front && !s.done.isEmpty)
    let positional := s.done.map fun p => .mk .positionalOnly p.name p.hint p.default p.line
    return { s with done := positional, phase := .afterSlash }
  else if ← skipSign "*" then
    require (s.phase == .front || s.phase == .afterSlash)
    if ← atSign "," then return { s with phase := .afterStar, bare := true }
    let n ← name
    let h ← hint hints (starOr self .test)
    return { s with done := .mk .variadic n h none l :: s.done, phase := .afterStar }
  else if ← skipSign "**" then
    require (s.phase != .atEnd && !s.bare)
    let n ← name
    let h ← hint hints (self .test)
    return { s with done := .mk .keywordVariadic n h none l :: s.done, phase := .atEnd }
  else
    require (s.phase != .atEnd)
    let n ← name
    let h ← hint hints (self .test)
    let d ← if ← skipSign "=" then some <$> self .test else pure none
    if s.phase == .afterStar then
      return { s with done := .mk .keywordOnly n h d l :: s.done, bare := false }
    require (d.isSome || !s.hasDefault)
    return { s with done := .mk .ordinary n h d l :: s.done, hasDefault := d.isSome }

/-- Parameters up to a closing sign, which is left. -/
def parameters (self : Self) (hints : Bool) (close : String) : Parser (List TreeParameter) := do
  if ← atSign close then return []
  let first ← parameterStep self hints {}
  let s ← loop (fun s => maybe do
    sign ","
    require !(← atSign close)
    parameterStep self hints s) first
  require !s.bare
  discard (skipSign ",")
  return s.done.reverse

def lambdaExpr (self : Self) : Parser Tree := located do
  word "lambda"
  let ps ← parameters self false ":"
  sign ":"
  return .lambda ps (← self .test)

/-! Operators -/

def conditional (self : Self) : Parser Tree := do
  if ← atWord "lambda" then lambdaExpr self
  else
    let body ← self .or
    if ← skipWord "if" then
      let test ← self .or
      word "else"
      return .mk body.line (.conditional test body (← self .test))
    else return body

/-- One operand, or several with a connective between them. -/
def connected (op : BoolOp) (w : String) (operand : Parser Tree) : Parser Tree := do
  match ← separated (word w) operand with
  | [e] => return e
  | es => return .mk (es.headD default).line (.bool op es)

def negation (self : Self) : Parser Tree := do
  if ← atWord "not" then
    located do
      word "not"
      return .unary .not (← self .not)
  else self .compare

def compareOp : Parser CompareOp := do
  match ← peek with
  | .op "==" => sign "=="; return .eq
  | .op "!=" => sign "!="; return .notEq
  | .op "<" => sign "<"; return .lt
  | .op "<=" => sign "<="; return .le
  | .op ">" => sign ">"; return .gt
  | .op ">=" => sign ">="; return .ge
  | .word "in" => word "in"; return .isIn
  | .word "not" => word "not"; word "in"; return .notIn
  | .word "is" =>
    word "is"
    if ← skipWord "not" then return .isNot else return .is
  | _ => failure

def comparison (self : Self) : Parser Tree := do
  let left ← self .bitOr
  match ← many (do return (← compareOp, ← self .bitOr)) with
  | [] => return left
  | rest => return .mk left.line (.compare left rest)

/-- The operators of a level that groups from the left. -/
def operatorsAt : Strength → List (String × BinaryOp)
  | .bitOr => [("|", .bitOr)]
  | .bitXor => [("^", .bitXor)]
  | .bitAnd => [("&", .bitAnd)]
  | .shift => [("<<", .shiftLeft), (">>", .shiftRight)]
  | .arith => [("+", .add), ("-", .sub)]
  | .term => [("*", .mult), ("/", .div), ("//", .floorDiv), ("%", .mod), ("@", .matMult)]
  | _ => []

/-- Takes an operator of a table. -/
def operator (table : List (String × BinaryOp)) : Parser BinaryOp :=
  take fun l => match l with
    | .op s => table.lookup s
    | _ => none

/-- Operands of the next level with operators of this one between them, grouped from the left. -/
def binary (self : Self) (level next : Strength) : Parser Tree :=
  chain (self next) fun left => do
    let op ← operator (operatorsAt level)
    return .mk left.line (.binary left op (← self next))

def unaryOp? : Lexeme → Option UnaryOp
  | .op "+" => some .plus
  | .op "-" => some .minus
  | .op "~" => some .invert
  | _ => none

def factor (self : Self) : Parser Tree := do
  let l ← line
  match ← maybe (take unaryOp?) with
  | some op => return .mk l (.unary op (← self .factor))
  | none => self .power

def power (self : Self) : Parser Tree := do
  let base ← self .await
  if ← skipSign "**" then return .mk base.line (.binary base .pow (← self .factor))
  else return base

def awaitExpr (self : Self) : Parser Tree := do
  let l ← line
  if ← skipWord "await" then return .mk l (.await (← self .atom)) else self .atom

/-! Brackets -/

/-- A tuple, a group or a generator after its opening parenthesis on a line. -/
def parenthesis (self : Self) (l : Nat) : Parser Tree := do
  if ← skipSign ")" then return .mk l (.tuple [])
  if ← atWord "yield" then
    let e ← yieldExpr self
    sign ")"
    return e
  let isStarred ← atSign "*"
  let first ← starOr self .named
  if ← atClause then
    require !isStarred
    let cs ← clauses self
    sign ")"
    return .mk l (.generator first cs)
  if ← skipSign ")" then
    require !isStarred
    return first
  sign ","
  if ← skipSign ")" then return .mk l (.tuple [first])
  let (rest, _) ← commaList (starOr self .named)
  sign ")"
  return .mk l (.tuple (first :: rest))

/-- A list or a list comprehension after its opening bracket. -/
def bracket (self : Self) (l : Nat) : Parser Tree := do
  if ← skipSign "]" then return .mk l (.list [])
  let isStarred ← atSign "*"
  let first ← starOr self .named
  if ← atClause then
    require !isStarred
    let cs ← clauses self
    sign "]"
    return .mk l (.listComp first cs)
  if ← skipSign "]" then return .mk l (.list [first])
  sign ","
  if ← skipSign "]" then return .mk l (.list [first])
  let (rest, _) ← commaList (starOr self .named)
  sign "]"
  return .mk l (.list (first :: rest))

/-- An entry of a dictionary. -/
def entry (self : Self) : Parser (Option Tree × Tree) := do
  if ← skipSign "**" then return (none, ← self .bitOr)
  let k ← self .test
  sign ":"
  return (some k, ← self .test)

/-- The rest of a set or of its comprehension after the first item. -/
def setRest (self : Self) (l : Nat) (isStarred : Bool) (first : Tree) : Parser Tree := do
  if ← atClause then
    require !isStarred
    let cs ← clauses self
    sign "\x7d"
    return .mk l (.setComp first cs)
  if ← skipSign "\x7d" then return .mk l (.set [first])
  sign ","
  if ← skipSign "\x7d" then return .mk l (.set [first])
  let (rest, _) ← commaList (starOr self .named)
  sign "\x7d"
  return .mk l (.set (first :: rest))

/-- The rest of a dictionary or of its comprehension after the first entry. -/
def dictRest (self : Self) (l : Nat) (first : Option Tree × Tree) : Parser Tree := do
  if ← atClause then
    let key ← ofOption first.1
    let cs ← clauses self
    sign "\x7d"
    return .mk l (.dictComp key first.2 cs)
  if ← skipSign "\x7d" then return .mk l (.dict [first])
  sign ","
  if ← skipSign "\x7d" then return .mk l (.dict [first])
  let (rest, _) ← commaList (entry self)
  sign "\x7d"
  return .mk l (.dict (first :: rest))

/-- A dictionary, a set or a comprehension of one after its opening brace. -/
def brace (self : Self) (l : Nat) : Parser Tree := do
  if ← skipSign "\x7d" then return .mk l (.dict [])
  if ← atSign "**" then
    let first ← entry self
    dictRest self l first
  else if ← atSign "*" then
    let first ← starred self .bitOr
    setRest self l true first
  else if ← atNamed then
    let first ← self .named
    setRest self l false first
  else
    let first ← self .test
    if ← skipSign ":" then
      let value ← self .test
      dictRest self l (some first, value)
    else
      require !(← atSign ":=")
      setRest self l false first

/-! Atoms and what follows them -/

/-- The source of a field of a formatted text, which stands between parentheses. -/
def fieldSource (self : Self) (l : Nat) (source : List Char) : Option Tree := do
  let tokens ← (lexFrom l ('(' :: source ++ [')'])).tokens?
  let (e, _) ← self .tuple tokens
  some e

def quotation : Parser (Nat × Quotation) := do
  let l ← line
  let q ← take fun t => match t with
    | .text q => some q
    | _ => none
  return (l, q)

def texts (self : Self) : Parser Tree := do
  let first ← quotation
  let rest ← many quotation
  ofOption (concatenate (fieldSource self) (first :: rest))

def wordAtom (w : String) : Parser Tree :=
  located <| match w with
  | "None" => do word w; return .const .none
  | "True" => do word w; return .const (.bool true)
  | "False" => do word w; return .const (.bool false)
  | _ => .name <$> name

def atom (self : Self) : Parser Tree := do
  let l ← line
  match ← peek with
  | .word w => wordAtom w
  | .number c =>
    discard (take some)
    return .mk l (.const c)
  | .text _ => texts self
  | .op "(" => sign "("; parenthesis self l
  | .op "[" => sign "["; bracket self l
  | .op "\x7b" => sign "\x7b"; brace self l
  | .op "..." => sign "..."; return .mk l (.const .ellipsis)
  | _ => failure

/-- Part of an index: an expression, a starred one or a slice. -/
def sliceItem (self : Self) : Parser Tree := do
  if ← atSign "*" then starred self .test
  else if ← atNamed then self .named
  else
    let l ← line
    let lower ← if ← atSign ":" then pure none else some <$> self .test
    if ← skipSign ":" then
      let upper ← maybe (self .test)
      let step ← if ← skipSign ":" then maybe (self .test) else pure none
      return .mk l (.slice lower upper step)
    else ofOption lower

def isStarred (e : Tree) : Bool :=
  match e.form with
  | .starred _ => true
  | _ => false

/-- What stands between the brackets of an index: one item without a comma stands for itself. -/
def index (self : Self) : Parser Tree := do
  match ← commaList (sliceItem self) with
  | ([x], false) => return if isStarred x then .mk x.line (.tuple [x]) else x
  | (xs, _) => return .mk (xs.headD default).line (.tuple xs)

/-- How far a list of arguments has come. -/
inductive ArgumentPhase
  | positional | named | spread
  deriving DecidableEq

/-- The arguments so far, the last first. -/
structure ArgumentState where
  args : List Tree := []
  keywords : List TreeKeyword := []
  phase : ArgumentPhase := .positional

def argumentStep (self : Self) (s : ArgumentState) : Parser ArgumentState := do
  let l ← line
  if ← atSign "*" then
    require (s.phase != .spread)
    return { s with args := (← starred self .test) :: s.args }
  else if ← skipSign "**" then
    return { s with keywords := .mk none (← self .test) l :: s.keywords, phase := .spread }
  else if (← peekSecond) == .op "=" then
    let n ← name
    sign "="
    let k := TreeKeyword.mk (some n) (← self .test) l
    let phase := if s.phase == .positional then .named else s.phase
    return { s with keywords := k :: s.keywords, phase := phase }
  else
    require (s.phase == .positional)
    return { s with args := (← self .named) :: s.args }

/-- More arguments after the first, up to the closing parenthesis, which is taken. -/
def restArguments (self : Self) (first : ArgumentState) :
    Parser (List Tree × List TreeKeyword) := do
  let s ← loop (fun s => maybe do
    sign ","
    argumentStep self s) first
  discard (skipSign ",")
  sign ")"
  return (s.args.reverse, s.keywords.reverse)

/-- Arguments up to the closing parenthesis, which is taken: by place and by name. -/
def arguments (self : Self) : Parser (List Tree × List TreeKeyword) := do
  if ← skipSign ")" then return ([], [])
  restArguments self (← argumentStep self {})

/-- The arguments of a call on a line: a generator may stand alone without its own parentheses. -/
def callArguments (self : Self) (l : Nat) : Parser (List Tree × List TreeKeyword) := do
  if ← skipSign ")" then return ([], [])
  let first ← argumentStep self {}
  if ← atClause then
    match first.args with
    | [e] =>
      require !(isStarred e)
      let cs ← clauses self
      sign ")"
      return ([.mk l (.generator e cs)], [])
    | _ => failure
  else restArguments self first

/-- An attribute, an index or a call of what stands before. -/
def trailer (self : Self) (e : Tree) : Parser Tree := do
  let l ← line
  match ← peek with
  | .op "." =>
    sign "."
    return .mk e.line (.attribute e (← name))
  | .op "[" =>
    sign "["
    let i ← index self
    sign "]"
    return .mk e.line (.subscript e i)
  | .op "(" =>
    sign "("
    let (args, keywords) ← callArguments self l
    return .mk e.line (.call e args keywords)
  | _ => failure

def primary (self : Self) : Parser Tree := chain (atom self) (trailer self)

/-! All levels -/

/-- An expression of a strength, given the parser for those inside it. -/
def step (self : Self) : Self
  | .yield => do if ← atWord "yield" then yieldExpr self else self .tuple
  | .tuple => starExpressions self
  | .named => namedExpr self
  | .test => conditional self
  | .or => connected .or "or" (self .and)
  | .and => connected .and "and" (self .not)
  | .not => negation self
  | .compare => comparison self
  | .bitOr => binary self .bitOr .bitXor
  | .bitXor => binary self .bitXor .bitAnd
  | .bitAnd => binary self .bitAnd .shift
  | .shift => binary self .shift .arith
  | .arith => binary self .arith .term
  | .term => binary self .term .factor
  | .factor => factor self
  | .power => power self
  | .await => awaitExpr self
  | .atom => primary self

/-- An expression of a strength through a number of steps. -/
def expr : Nat → Self
  | 0 => fun _ => failure
  | n + 1 => step (expr n)

/-- One or more expressions without stars: several stand for a tuple. -/
def expressions (self : Self) : Parser Tree := tupleUnlessOne <$> commaList (self .test)

end Exemplar.Syntax.Parser
