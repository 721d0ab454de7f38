import Exemplar.Syntax.Parser.Expr
import Exemplar.Syntax.Tree

/-
  Parsing the patterns of `match` statements. As with expressions, a step reads one pattern with a
  parser for the patterns inside it.

  Parsing statements. A statement stops with its last token that is no mark of layout. Blocks are
  read by a parser that is passed in; every block has taken a token before.

  From source text to statements or to one expression. Every step of the parser that stays among the
  same tokens goes to a stronger level, so levels times characters bound the steps.
-/

namespace Exemplar.Syntax.Parser

/-- A name that a value is bound to. -/
def captureName : Parser String := do
  let n ← name
  require (n != "_")
  return n

/-- A number, with a sign if there is one. -/
def signedNumber : Parser (Tree × Bool) := do
  let l ← line
  let negative ← skipSign "-"
  let own ← line
  let c ← take fun l => match l with
    | .number c => some c
    | _ => none
  let imaginary := match c with
    | .imaginary _ => true
    | _ => false
  let number := Tree.mk own (.const c)
  return (if negative then .mk l (.unary .minus number) else number, imaginary)

/-- A number, or the sum or difference of a real one and an imaginary one. -/
def numberValue : Parser Tree := do
  let (left, imaginary) ← signedNumber
  match ← maybe (operator (operatorsAt .arith)) with
  | none => return left
  | some op =>
    require !imaginary
    let negative ← atSign "-"
    let (right, imaginary) ← signedNumber
    require (imaginary && !negative)
    return .mk left.line (.binary left op right)

/-- A name and the attributes after it. -/
def dottedValue : Parser Tree := do
  chain (located (.name <$> name)) fun e => do
    sign "."
    return .mk e.line (.attribute e (← name))

/-- A value that stands for itself: a number, a text or one of the three constants. -/
def literalValue (self : Self) : Parser Tree := do
  match ← peek with
  | .text _ => texts self
  | .word "None" => wordAtom "None"
  | .word "True" => wordAtom "True"
  | .word "False" => wordAtom "False"
  | _ => numberValue

/-- A pattern, or a star with a name or a blank. -/
def starOrPattern (pattern : Parser Pattern) : Parser Pattern := do
  let l ← line
  if ← skipSign "*" then
    let n ← name
    return .star (if n == "_" then none else some n) l
  else pattern

def isStar : Pattern → Bool
  | .star _ _ => true
  | _ => false

/-- Patterns up to a closing sign, which is taken. -/
def patternsUntil (pattern : Parser Pattern) (close : String) : Parser (List Pattern × Bool) := do
  if ← skipSign close then return ([], false)
  let (ps, comma) ← commaList (starOrPattern pattern)
  sign close
  return (ps, comma)

/-- An entry of a mapping pattern; the last may take the rest. -/
def mappingEntry (self : Self) (pattern : Parser Pattern) :
    Parser (Tree × Pattern ⊕ String) := do
  if ← skipSign "**" then return .inr (← captureName)
  let key ← match ← peek, ← peekSecond with
    | .word _, .op "." => dottedValue
    | _, _ => literalValue self
  sign ":"
  return .inl (key, ← pattern)

def mappingPattern (self : Self) (pattern : Parser Pattern) (l : Nat) : Parser Pattern := do
  if ← skipSign "\x7d" then return .mapping [] none l
  let (entries, _) ← commaList (mappingEntry self pattern)
  sign "\x7d"
  let pairs := entries.filterMap fun e => e.elim some fun _ => none
  match entries.getLast? with
  | some (.inr rest) =>
    require (pairs.length + 1 == entries.length)
    return .mapping pairs (some rest) l
  | _ =>
    require (pairs.length == entries.length)
    return .mapping pairs none l

/-- An argument of a class pattern, by place or by name. -/
def classArgument (pattern : Parser Pattern) : Parser (Pattern ⊕ String × Pattern) := do
  if (← peekSecond) == .op "=" then
    let n ← name
    sign "="
    return .inr (n, ← pattern)
  else return .inl (← pattern)

def classPattern (pattern : Parser Pattern) (cls : Tree) (l : Nat) : Parser Pattern := do
  if ← skipSign ")" then return .classOf cls [] [] l
  let (args, _) ← commaList (classArgument pattern)
  sign ")"
  let byPlace := args.takeWhile (·.isLeft)
  let byName := args.drop byPlace.length
  require (byName.all (·.isRight))
  return .classOf cls (byPlace.filterMap Sum.getLeft?) (byName.filterMap Sum.getRight?) l

/-- A pattern that no alternatives or names extend. -/
def closedPattern (self : Self) (pattern : Parser Pattern) : Parser Pattern := do
  let l ← line
  match ← peek with
  | .op "(" =>
    sign "("
    match ← patternsUntil pattern ")" with
    | ([p], false) =>
      require !(isStar p)
      return p
    | (ps, _) => return .sequence ps l
  | .op "[" =>
    sign "["
    let (ps, _) ← patternsUntil pattern "]"
    return .sequence ps l
  | .op "\x7b" =>
    sign "\x7b"
    mappingPattern self pattern l
  | .word w =>
    if ["None", "True", "False"].contains w then return .value (← literalValue self) l
    let e ← dottedValue
    if ← skipSign "(" then classPattern pattern e l
    else
      match e.form with
      | .name n =>
        require !(← atSign "=")
        return .capture none (if n == "_" then none else some n) l
      | _ => return .value e l
  | _ => return .value (← literalValue self) l

def patternStep (self : Self) (pattern : Parser Pattern) : Parser Pattern := do
  let l ← line
  let p ← match ← separated (sign "|") (closedPattern self pattern) with
    | [p] => pure p
    | ps => pure (.alternatives ps l)
  if ← skipWord "as" then return .capture (some p) (some (← captureName)) l else return p

/-- A pattern through a number of steps. -/
def pattern (self : Self) : Nat → Parser Pattern
  | 0 => failure
  | n + 1 => patternStep self (pattern self n)

/-- The pattern of a case: without brackets, commas make a sequence. -/
def casePattern (p : Parser Pattern) : Parser Pattern := do
  match ← commaList (starOrPattern p) with
  | ([q], false) =>
    require !(isStar q)
    return q
  | (ps, _) => return .sequence ps (ps.headD default).line

/-! ## Statements -/

/-- Where the first and the last token that are no marks of layout start and stop. -/
def extent (ts : List Token) : Place × Place :=
  let solid := ts.filter (!·.lexeme.isLayout)
  (solid.head?.elim default (·.start), solid.getLast?.elim default (·.stop))

/-- What `p` reads, with its place. -/
def placed (p : Parser Action) : Parser Stmt := do
  let (a, ts) ← withTokens p
  let (start, stop) := extent ts
  return .mk a start stop

/-! Statements within a line -/

/-- The operators of assignments that change a target. -/
def augmentedOps : List (String × BinaryOp) :=
  [("+=", .add), ("-=", .sub), ("*=", .mult), ("@=", .matMult), ("/=", .div), ("%=", .mod),
   ("&=", .bitAnd), ("|=", .bitOr), ("^=", .bitXor), ("<<=", .shiftLeft), (">>=", .shiftRight),
   ("**=", .pow), ("//=", .floorDiv)]

/-- More targets and the value after a first target and its `=`. -/
def assignment (self : Self) (first : Tree) : Parser Action := do
  require (isStarTarget first)
  sign "="
  let value ← self .yield
  let (targets, value) ← loop (fun (targets, value) => maybe do
    sign "="
    require (isStarTarget value)
    return (value :: targets, ← self .yield)) ([first], value)
  require !(← atSign "=")
  return .assign targets.reverse value

/-- An assignment of any form, or an expression. -/
def assignOrExpr (self : Self) : Parser Action := do
  if ← atWord "yield" then return .expr (← yieldExpr self)
  let grouped ← atSign "("
  let e ← self .tuple
  if ← skipSign ":" then
    require (isSingleTarget e)
    let hint ← self .test
    let value ← if ← skipSign "=" then some <$> self .yield else pure none
    let isName := match e.form with
      | .name _ => true
      | _ => false
    return .annAssign e hint value (isName && !grouped)
  match ← maybe (operator augmentedOps) with
  | some op =>
    require (isSingleTarget e)
    return .augAssign e op (← self .yield)
  | none => if ← atSign "=" then assignment self e else return .expr e

def dottedName : Parser (List String) := separated (sign ".") name

def aliasAfter : Parser (Option String) := do
  if ← skipWord "as" then return some (← name) else return none

def importModules : Parser Action := do
  word "import"
  return .importModules (← separated (sign ",") do
    let l ← line
    return ⟨← dottedName, ← aliasAfter, l⟩)

/-- How many dots lead a path. -/
def leadingDots : Parser Nat :=
  loop (fun n => do
    if ← skipSign "." then return some (n + 1)
    else if ← skipSign "..." then return some (n + 3)
    else return none) 0

def importedName : Parser Import := do
  let l ← line
  return ⟨[← name], ← aliasAfter, l⟩

/-- What stands for all names of a module. -/
def everyName : String := "*"

def importFrom : Parser Action := do
  word "from"
  let level ← leadingDots
  let module ← if ← atWord "import" then pure [] else dottedName
  require (level != 0 || !module.isEmpty)
  word "import"
  let l ← line
  if ← skipSign everyName then return .importFrom level module [⟨[everyName], none, l⟩]
  else if ← skipSign "(" then
    let (names, _) ← commaList importedName
    sign ")"
    return .importFrom level module names
  else
    return .importFrom level module (← separated (sign ",") importedName)

def deleteStmt (self : Self) : Parser Action := do
  word "del"
  let (targets, _) ← commaList (self .bitOr)
  require (areDeletable targets)
  return .delete targets

def raiseStmt (self : Self) : Parser Action := do
  word "raise"
  match ← maybe (self .test) with
  | none => return .raise none none
  | some e =>
    if ← skipWord "from" then return .raise (some e) (some (← self .test))
    else return .raise (some e) none

def assertStmt (self : Self) : Parser Action := do
  word "assert"
  let test ← self .test
  if ← skipSign "," then return .assert test (some (← self .test)) else return .assert test none

def names : Parser (List String) := separated (sign ",") name

def simpleAction (self : Self) : Parser Action := do
  match ← peek with
  | .word "pass" => word "pass"; return .pass
  | .word "break" => word "break"; return .break
  | .word "continue" => word "continue"; return .continue
  | .word "return" => word "return"; return .ret (← maybe (self .tuple))
  | .word "import" => importModules
  | .word "from" => importFrom
  | .word "raise" => raiseStmt self
  | .word "del" => deleteStmt self
  | .word "assert" => assertStmt self
  | .word "global" => word "global"; return .global (← names)
  | .word "nonlocal" => word "nonlocal"; return .nonlocal (← names)
  | _ => assignOrExpr self

/-- Statements of one line, with semicolons between them. -/
def simpleLine (self : Self) : Parser (List Stmt) := do
  let xs ← separated (sign ";") (placed (simpleAction self))
  discard (skipSign ";")
  mark .newline
  return xs

/-! Statements with blocks -/

/-- The statements after a colon: an indented block or the rest of the line. -/
def block (self : Self) (statement : Parser (List Stmt)) : Parser (List Stmt) := do
  if (← peek) == .newline then
    mark .newline
    mark .indent
    let first ← statement
    let rest ← many statement
    mark .dedent
    return first ++ rest.flatten
  else simpleLine self

/-- A colon and the block after it. -/
def suite (block : Parser (List Stmt)) : Parser (List Stmt) := do
  sign ":"
  block

def elseSuite (block : Parser (List Stmt)) : Parser (List Stmt) := do
  if ← skipWord "else" then suite block else return []

def functionDef (self : Self) (block : Parser (List Stmt)) (decorators : List Tree) :
    Parser Action := do
  let isAsync ← skipWord "async"
  word "def"
  let n ← name
  sign "("
  let ps ← parameters self true ")"
  sign ")"
  let returns ← if ← skipSign "->" then some <$> self .test else pure none
  return .function isAsync n ps returns decorators (← suite block)

def classDef (self : Self) (block : Parser (List Stmt)) (decorators : List Tree) :
    Parser Action := do
  word "class"
  let n ← name
  let (bases, keywords) ← if ← skipSign "(" then arguments self else pure ([], [])
  return .classDef n bases keywords decorators (← suite block)

def decorator (self : Self) : Parser Tree := do
  sign "@"
  let e ← self .named
  mark .newline
  return e

/-- A definition; its place is that of its first line after the decorators. -/
def definition (self : Self) (block : Parser (List Stmt)) : Parser Stmt := do
  let ds ← many (decorator self)
  placed do
    if ← atWord "class" then classDef self block ds else functionDef self block ds

/-- A test and its block after a word, with the place of the word. -/
def testSuite (self : Self) (block : Parser (List Stmt)) (w : String) :
    Parser (Place × Tree × List Stmt) := do
  let ((test, body), ts) ← withTokens do
    word w
    let test ← self .named
    return (test, ← suite block)
  return ((extent ts).1, test, body)

/-- A chain of tests: each one after the first is the only statement where the one before fails. -/
def ifStmt (self : Self) (block : Parser (List Stmt)) : Parser Action := do
  let (_, test, body) ← testSuite self block "if"
  let ((more, last), ts) ← withTokens do
    let more ← many (testSuite self block "elif")
    return (more, ← elseSuite block)
  let stop := (extent ts).2
  let orelse := more.foldr (fun (start, test, body) orelse =>
    [Stmt.mk (.ifTrue test body orelse) start stop]) last
  return .ifTrue test body orelse

def whileStmt (self : Self) (block : Parser (List Stmt)) : Parser Action := do
  word "while"
  let test ← self .named
  let body ← suite block
  return .whileTrue test body (← elseSuite block)

def forStmt (self : Self) (block : Parser (List Stmt)) : Parser Action := do
  let isAsync ← skipWord "async"
  word "for"
  let target ← loopTargets self
  word "in"
  let iter ← self .tuple
  let body ← suite block
  return .forIn isAsync target iter body (← elseSuite block)

def withItem (self : Self) : Parser (Tree × Option Tree) := do
  let e ← self .test
  if ← skipWord "as" then
    let target ← starOr self .bitOr
    require (isStarTarget target)
    return (e, some target)
  else return (e, none)

def withStmt (self : Self) (block : Parser (List Stmt)) : Parser Action := do
  let isAsync ← skipWord "async"
  word "with"
  let grouped : Parser (List (Tree × Option Tree)) := do
    sign "("
    let (items, _) ← commaList (withItem self)
    sign ")"
    require (← atSign ":")
    return items
  let items ← grouped <|> separated (sign ",") (withItem self)
  return .withItems isAsync items (← suite block)

def handler (self : Self) (block : Parser (List Stmt)) : Parser (Handler × Bool) := do
  let l ← line
  word "except"
  let grouped ← skipSign "*"
  if !grouped && (← atSign ":") then return (.mk none none (← suite block) l, grouped)
  let type ← self .test
  let alias? ← aliasAfter
  return (.mk (some type) alias? (← suite block) l, grouped)

def finallySuite (block : Parser (List Stmt)) : Parser (List Stmt) := do
  if ← skipWord "finally" then suite block else return []

def tryStmt (self : Self) (block : Parser (List Stmt)) : Parser Action := do
  word "try"
  let body ← suite block
  let handlers ← many (handler self block)
  let grouped := handlers.head?.any (·.2)
  require (handlers.all (·.2 == grouped))
  let orelse ← if handlers.isEmpty then pure [] else elseSuite block
  let final ← finallySuite block
  require (!handlers.isEmpty || !final.isEmpty)
  return .tryBlock body (handlers.map (·.1)) orelse final grouped

def matchCase (self : Self) (pattern : Parser Pattern) (block : Parser (List Stmt)) :
    Parser Case := do
  word "case"
  let p ← casePattern pattern
  let guard? ← if ← skipWord "if" then some <$> self .named else pure none
  return .mk p guard? (← suite block)

def matchStmt (self : Self) (pattern : Parser Pattern) (block : Parser (List Stmt)) :
    Parser Action := do
  word "match"
  let subject ← commaList (starOr self .named)
  let subject ← match subject with
    | ([e], false) =>
      require !(isStarred e)
      pure e
    | (es, _) => pure (.mk (es.headD default).line (.tuple es))
  sign ":"
  mark .newline
  mark .indent
  let first ← matchCase self pattern block
  let rest ← many (matchCase self pattern block)
  mark .dedent
  return .matchOn subject (first :: rest)

/-- One compound statement, or the statements of one line. -/
def statementStep (self : Self) (pattern : Parser Pattern) (block : Parser (List Stmt)) :
    Parser (List Stmt) := do
  let one (p : Parser Action) : Parser (List Stmt) := do return [← placed p]
  match ← peek with
  | .word "if" => one (ifStmt self block)
  | .word "while" => one (whileStmt self block)
  | .word "for" => one (forStmt self block)
  | .word "try" => one (tryStmt self block)
  | .word "with" => one (withStmt self block)
  | .word "def" | .word "class" | .op "@" => do return [← definition self block]
  | .word "async" =>
    match ← peekSecond with
    | .word "for" => one (forStmt self block)
    | .word "with" => one (withStmt self block)
    | _ => do return [← definition self block]
  | .word "match" => one (matchStmt self pattern block) <|> simpleLine self
  | _ => simpleLine self

/-- A statement through a number of nested blocks. -/
def statement (self : Self) (pattern : Parser Pattern) : Nat → Parser (List Stmt)
  | 0 => failure
  | n + 1 => statementStep self pattern (block self (statement self pattern n))

/-- All statements of a file. -/
def file (self : Self) (pattern : Parser Pattern) (depth : Nat) : Parser (List Stmt) := do
  let body ← many (statement self pattern depth)
  mark .stop
  return body.flatten

end Exemplar.Syntax.Parser

namespace Exemplar.Syntax

/-- How many steps a text of some characters can need. -/
def stepsFor (length : Nat) : Nat := 20 * (length + 4)

/-- A text with a line feed at its end. -/
def endLine (cs : List Char) : List Char :=
  if cs.isEmpty || cs.getLast? == some '\n' then cs else cs ++ ['\n']

/-- The statements of a source file. -/
def parseFile? (cs : List Char) : Option (List Stmt) := do
  let tokens ← (lex cs).tokens?
  let n := stepsFor cs.length
  let self := Parser.expr n
  let (body, _) ← Parser.file self (Parser.pattern self n) n tokens
  some body

/-- The expression that a text holds. -/
def parseTree? (cs : List Char) : Option Tree := do
  let tokens ← (lex cs).tokens?
  let whole : Parser Tree := do
    let e ← Parser.expressions (Parser.expr (stepsFor cs.length))
    discard (Parser.many (Parser.mark .newline))
    Parser.mark .stop
    return e
  let (e, _) ← whole tokens
  some e

/-- The same without lines. -/
def parseExpr? (cs : List Char) : Option Expr := (parseTree? cs).map Tree.expr

end Exemplar.Syntax
