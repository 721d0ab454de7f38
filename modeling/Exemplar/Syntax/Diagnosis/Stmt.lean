import Exemplar.Syntax.Diagnosis.Parameters

/-
  The rules of statements.
-/

namespace Exemplar.Syntax.Diagnosis.Reading

/-- The message about a missing block after the first line of a statement. -/
def blockMissing (after : String) (line : Nat) : String :=
  "expected an indented block after " ++ after ++ " on line " ++ toString line

/-- A line that ends where a colon is missing. -/
def colonMissing (front : Reading α) : Reading β := do
  discard front
  discard newline
  refuseHere "expected ':'"

/-- A first line, whose word stands on the line that `front` answers, without a block. -/
def badBlockAfter (what : String) (front : Reading Nat) : Reading β := do
  let line ← front
  discard (sign ":")
  discard newline
  no indent
  refuseBlock (blockMissing what line)

/-! Statements within a line -/

def yieldOrExpressions (self : Self) : Reading Sketch :=
  first [yieldExpression self, starExpressions self]

def augmented : Reading Nat :=
  signOf ["+=", "-=", "*=", "@=", "/=", "%=", "&=", "|=", "^=", "<<=", ">>=", "**=", "//="]

/-- A list or a tuple that is given a hint. -/
def badHintTarget (self : Self) : Reading Sketch := first [
  listAtom self,
  tupleAtom self,
  do
    discard (sign "(")
    let a ← self .badHintTarget
    discard (sign ")")
    return a]

def badAssignment (self : Self) : Reading Sketch := do
  let hint : Reading Unit := do
    discard (sign ":")
    discard (self .expression)
  let targets : Reading Unit := discard (many do
    discard (starTargets self)
    sign "=")
  let assigned ← attempt (first [
    do
      let a ← self .badHintTarget
      hint
      refuse a.line ("only single target (not " ++ a.kind.words ++ ") can be annotated"),
    do
      let a ← starNamed self
      discard (sign ",")
      discard (many (commaList (starNamed self)))
      hint
      refuse a.line "only single target (not tuple) can be annotated",
    do
      let a ← self .expression
      hint
      refuse a.line "illegal target for annotation",
    do
      targets
      let a ← starExpressions self
      discard (sign "=")
      return a])
  match assigned with
  | some a => refuseTarget .assignment a
  | none => first [
    do
      targets
      let a ← yieldExpression self
      discard (sign "=")
      refuse a.line "assignment to yield expression not possible",
    do
      let a ← starExpressions self
      discard augmented
      discard (yieldOrExpressions self)
      refuse a.line
        ("'" ++ a.kind.words ++ "' is an illegal expression for augmented assignment")]

def assignment (self : Self) : Reading Unit := do
  let hinted : Reading Unit := do
    discard (sign ":")
    discard (self .expression)
    skip do
      discard (sign "=")
      yieldOrExpressions self
  let plain ← optional (first [
    do
      discard name
      hinted,
    do
      discard (first [
        do
          discard (sign "(")
          let a ← self .singleTarget
          discard (sign ")")
          return a,
        lastTrailer self])
      hinted,
    do
      discard (some' do
        discard (starTargets self)
        sign "=")
      discard (yieldOrExpressions self)
      no (sign "=")])
  if plain.isNone then
    let changed ← optional do
      discard (self .singleTarget)
      augmented
    match changed with
    | some _ => discard (yieldOrExpressions self)
    | none => discard (helping (badAssignment self))

def alias? : Reading Unit := skip do
  discard (word "as")
  name

def importNames : Reading Unit := do
  discard (word "import")
  discard (separated (sign ",") do discard dotted; alias?)

def importFrom : Reading Unit := do
  let listed : Reading Unit := discard (separated (sign ",") do discard name; alias?)
  let dot : Reading Nat := signOf [".", "..."]
  discard (word "from")
  first [
    do
      discard (many dot)
      discard dotted
      discard (word "import"),
    do
      discard (some' dot)
      discard (word "import")]
  first [
    do
      discard (sign "(")
      listed
      skip (sign ",")
      discard (sign ")"),
    do
      listed
      no (sign ","),
    discard (sign "*"),
    helping do
      listed
      discard (sign ",")
      discard newline
      refuseHere "trailing comma not allowed without surrounding parentheses"]

def deletion (self : Self) : Reading Unit := first [
  do
    discard (word "del")
    discard (commaList (self .deletedTarget))
    look (first [sign ";", newline]),
  helping do
    discard (word "del")
    refuseTarget .deletion (← starExpressions self)]

def raising (self : Self) : Reading Unit := do
  discard (word "raise")
  skip do
    discard (self .expression)
    skip do
      discard (word "from")
      self .expression

def assertion (self : Self) : Reading Unit := do
  discard (word "assert")
  discard (self .expression)
  skip do
    discard (sign ",")
    self .expression

def nameList (w : String) : Reading Unit := do
  discard (word w)
  discard (separated (sign ",") name)

def simpleStatement (self : Self) : Reading Sketch := do
  first [
    assignment self,
    discard (starExpressions self),
    do
      match (← peek).lexeme with
      | .word "return" =>
        discard (word "return")
        skip (starExpressions self)
      | .word "import" => importNames
      | .word "from" => importFrom
      | .word "raise" => raising self
      | .word "del" => deletion self
      | .word "yield" => discard (yieldExpression self)
      | .word "assert" => assertion self
      | .word "global" => nameList "global"
      | .word "nonlocal" => nameList "nonlocal"
      | _ => discard (first (["pass", "break", "continue"].map word))]
  return .nothing

def simpleStatements (self : Self) : Reading Unit := first [
  do
    discard (self .simpleStatement)
    no (sign ";")
    discard newline,
  do
    discard (separated (sign ";") (self .simpleStatement))
    skip (sign ";")
    discard newline]

/-! Statements with blocks -/

def blockRule (self : Self) : Reading Sketch := do
  first [
    do
      discard newline
      discard indent
      discard (self .statements)
      discard dedent,
    simpleStatements self,
    helping do
      discard newline
      no indent
      refuseBlock "expected an indented block"]
  return .nothing

def block (self : Self) : Reading Unit := discard (self .block)

/-- A colon and a block. -/
def suite (self : Self) : Reading Unit := do
  discard (sign ":")
  block self

def decorators (self : Self) : Reading Unit :=
  discard (some' do
    discard (sign "@")
    discard (namedExpression self)
    newline)

def decorated (self : Self) (r : Reading Unit) : Reading Unit := first [
  do
    decorators self
    r,
  r]

def functionDefinition (self : Self) : Reading Unit := do
  let parameters : Reading Unit := ParameterForm.parameters { isLambda := false } self
  let result : Reading Unit := skip do
    discard (sign "->")
    self .expression
  first [
    helping (badBlockAfter "function definition" do
      skip (word "async")
      let line ← word "def"
      discard name
      discard (sign "(")
      skip parameters
      discard (sign ")")
      result
      return line),
    do
      skip (word "async")
      discard (word "def")
      discard name
      discard (forced "(")
      skip parameters
      discard (sign ")")
      result
      discard (forced ":")
      block self]

def classDefinition (self : Self) : Reading Unit := do
  let front : Reading Nat := do
    let line ← word "class"
    discard name
    skip do
      discard (sign "(")
      skip (self .arguments)
      sign ")"
    return line
  first [
    helping (colonMissing front),
    helping (badBlockAfter "class definition" front),
    do
      discard front
      suite self]

def statementNamed (w : String) : String := "'" ++ w ++ "' statement"

/-- A word and a condition, whose line is that of the word. -/
def conditionAfter (self : Self) (w : String) : Reading Nat := do
  let line ← word w
  discard (namedExpression self)
  return line

/-- The mistakes in the first line of a statement with a condition. -/
def badCondition (self : Self) (w : String) : Reading α := first [
  colonMissing (conditionAfter self w),
  badBlockAfter (statementNamed w) (conditionAfter self w)]

def elsePart (self : Self) : Reading Unit := first [
  helping (badBlockAfter (statementNamed "else") (word "else")),
  do
    discard (word "else")
    discard (forced ":")
    block self]

/-- A condition with its block and what may follow. -/
def conditionPart (self : Self) (w : String) : Reading Unit := first [
  helping (badCondition self w),
  do
    discard (conditionAfter self w)
    suite self
    first [discard (self .elifPart), skip (elsePart self)]]

def whileLoop (self : Self) : Reading Unit := first [
  helping (badCondition self "while"),
  do
    discard (conditionAfter self "while")
    suite self
    skip (elsePart self)]

def forLoop (self : Self) : Reading Unit := do
  let front : Reading Nat := do
    let line ← word "for"
    discard (starTargets self)
    discard (word "in")
    return line
  let whole : Reading Nat := do
    skip (word "async")
    let line ← front
    discard (starExpressions self)
    return line
  let helped ← attempt (first [
    helping (colonMissing whole),
    helping (badBlockAfter (statementNamed "for") whole),
    front,
    do discard (word "async"); front])
  match helped with
  | some _ =>
    discard (starExpressions self)
    suite self
    skip (elsePart self)
  | none => helping (badLoopTarget self)

def withItem (self : Self) : Reading Unit := do
  let ending : Reading Unit := look (signOf [",", ")", ":"])
  first [
    do
      discard (self .expression)
      discard (word "as")
      discard (self .starTarget)
      ending,
    helping do
      discard (self .expression)
      discard (word "as")
      let a ← self .expression
      ending
      refuseTarget .assignment a,
    discard (self .expression)]

def withStatement (self : Self) : Reading Unit := do
  let target : Reading Unit := skip do
    discard (word "as")
    self .starTarget
  let plainFront : Reading Nat := do
    skip (word "async")
    let line ← word "with"
    discard (separated (sign ",") do discard (self .expression); target)
    return line
  let bracketFront : Reading Nat := do
    skip (word "async")
    let line ← word "with"
    discard (sign "(")
    discard (separated (sign ",") do discard (expressions self); target)
    skip (sign ",")
    discard (sign ")")
    return line
  let what := statementNamed "with"
  let bracketed : Reading Unit := do
    discard (word "with")
    discard (sign "(")
    discard (separated (sign ",") (withItem self))
    skip (sign ",")
    discard (sign ")")
    suite self
  let plain : Reading Unit := do
    discard (word "with")
    discard (separated (sign ",") (withItem self))
    suite self
  first [
    helping (badBlockAfter what plainFront),
    helping (badBlockAfter what bracketFront),
    bracketed,
    plain,
    do discard (word "async"); bracketed,
    do discard (word "async"); plain,
    helping (colonMissing plainFront),
    helping (colonMissing bracketFront)]

/-! Exceptions -/

def caughtName : Reading Unit := skip do
  discard (word "as")
  name

/-- The mistakes in the first line of a handler. -/
def badHandler (self : Self) : Reading α := first [
  do
    discard (word "except")
    skip (sign "*")
    let a ← self .expression
    discard (sign ",")
    discard (expressions self)
    caughtName
    discard (sign ":")
    refuse a.line "multiple exception types must be parenthesized",
  colonMissing do
    discard (word "except")
    skip (sign "*")
    discard (self .expression)
    caughtName,
  colonMissing (word "except"),
  do
    discard (word "except")
    discard (sign "*")
    discard (first [newline, sign ":"])
    refuseHere "expected one or more exception types"]

def handler (self : Self) : Reading Unit := do
  let typed : Reading Nat := do
    let line ← word "except"
    discard (self .expression)
    caughtName
    return line
  let what := statementNamed "except"
  first [
    helping (badBlockAfter what typed),
    helping (badBlockAfter what (word "except")),
    do
      discard typed
      suite self,
    do
      discard (word "except")
      suite self,
    helping (badHandler self)]

def groupHandler (self : Self) : Reading Unit := do
  let typed : Reading Nat := do
    let line ← word "except"
    discard (sign "*")
    discard (self .expression)
    caughtName
    return line
  first [
    helping (badBlockAfter (statementNamed "except*") typed),
    do
      discard typed
      suite self,
    helping (badHandler self)]

def finallyPart (self : Self) : Reading Unit := first [
  helping (badBlockAfter (statementNamed "finally") (word "finally")),
  do
    discard (word "finally")
    discard (forced ":")
    block self]

/-- The message about handlers of both kinds. -/
def bothKinds : String := "cannot have both 'except' and 'except*' on the same 'try'"

def badTry (self : Self) : Reading α := first [
  badBlockAfter (statementNamed "try") (word "try"),
  do
    discard (word "try")
    suite self
    no (first [word "except", word "finally"])
    refuseHere "expected 'except' or 'finally' block",
  do
    discard (word "try")
    discard (sign ":")
    discard (many (block self))
    discard (some' (handler self))
    let line ← word "except"
    discard (sign "*")
    discard (self .expression)
    caughtName
    discard (sign ":")
    refuse line bothKinds,
  do
    discard (word "try")
    discard (sign ":")
    discard (many (block self))
    discard (some' (groupHandler self))
    let line ← word "except"
    skip do
      discard (self .expression)
      caughtName
    discard (sign ":")
    refuse line bothKinds]

def tryStatement (self : Self) : Reading Unit := do
  let front : Reading Unit := do
    discard (word "try")
    discard (forced ":")
    block self
  let ending : Reading Unit := do
    skip (elsePart self)
    skip (finallyPart self)
  first [
    helping (badTry self),
    do
      front
      finallyPart self,
    do
      front
      discard (some' (handler self))
      ending,
    do
      front
      discard (some' (groupHandler self))
      ending]

/-! Matching -/

def subject (self : Self) : Reading Unit := first [
  do
    discard (starNamed self)
    discard (sign ",")
    skip (commaList (starNamed self)),
  discard (namedExpression self)]

def caseBlock (self : Self) : Reading Unit := do
  let front : Reading Nat := do
    let line ← word "case"
    casePattern self
    skip do
      discard (word "if")
      namedExpression self
    return line
  first [
    helping (colonMissing front),
    helping (badBlockAfter (statementNamed "case") front),
    do
      discard front
      suite self]

def matchStatement (self : Self) : Reading Unit := do
  let front : Reading Nat := do
    let line ← word "match"
    subject self
    return line
  first [
    do
      discard front
      discard (sign ":")
      discard newline
      discard indent
      discard (some' (caseBlock self))
      discard dedent,
    helping (colonMissing front),
    helping (badBlockAfter (statementNamed "match") front)]

/-! All statements -/

def compound (self : Self) : Reading Unit := do
  match (← peek).lexeme with
  | .word "def" => functionDefinition self
  | .word "if" => conditionPart self "if"
  | .word "class" => classDefinition self
  | .op "@" =>
    first [decorated self (functionDefinition self), decorated self (classDefinition self)]
  | .word "async" => first [functionDefinition self, withStatement self, forLoop self]
  | .word "with" => withStatement self
  | .word "for" => forLoop self
  | .word "try" => tryStatement self
  | .word "while" => whileLoop self
  | _ => matchStatement self

def statements (self : Self) : Reading Sketch := do
  discard (some' (first [compound self, simpleStatements self]))
  return .nothing

/-- How the rules are read, given how those inside them are. -/
def rule (self : Self) : Self
  | .statements => statements self
  | .block => blockRule self
  | .elifPart => do conditionPart self "elif"; return .nothing
  | .simpleStatement => simpleStatement self
  | .expression => expression self
  | .starExpression => starExpression self
  | .disjunction => connected self "or" .conjunction
  | .conjunction => connected self "and" .inversion
  | .inversion => inversion self
  | .bitOr => operation self ["|"] .bitXor
  | .bitXor => operation self ["^"] .bitAnd
  | .bitAnd => operation self ["&"] .shift
  | .shift => operation self ["<<", ">>"] .sum
  | .sum => operation self ["+", "-"] .term
  | .term => operation self ["*", "/", "//", "%", "@"] .factor
  | .factor => factor self
  | .awaitPrimary => awaitPrimary self
  | .primary => primary self
  | .targetPrimary => targetPrimary self
  | .texts => texts
  | .arguments => arguments self
  | .starTarget => starTarget self
  | .starAtomTarget => starAtomTarget self
  | .singleTarget => singleTarget self
  | .deletedTarget => deletedTarget self
  | .badNamed => badNamed self
  | .badHintTarget => badHintTarget self
  | .closedPattern => closedPattern self

/-- The rules through a number of rules inside each other. -/
def rules : Nat → Self
  | 0 => fun _ => failure
  | n + 1 => fun r =>
    if r.isRemembered then remember r (rule (rules n) r) else rule (rules n) r

end Exemplar.Syntax.Diagnosis.Reading
