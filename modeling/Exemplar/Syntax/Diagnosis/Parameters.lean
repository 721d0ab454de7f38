import Exemplar.Syntax.Diagnosis.Expr

/-
  The rules of parameters. Those of functions and of lambdas differ in the sign behind them, in
  hints and in the words of a few messages; a form tells which are meant.

  The rules of the patterns of `match` statements.
-/

namespace Exemplar.Syntax.Diagnosis.Reading

/-- Parameters of a function or of a lambda. -/
structure ParameterForm where
  isLambda : Bool

namespace ParameterForm

variable (f : ParameterForm) (self : Self)

/-- The sign behind the parameters. -/
def close : String := if f.isLambda then ":" else ")"

/-- A name with its hint; answers its line. -/
def parameter : Reading Nat := do
  let a ← name
  if !f.isLambda then
    skip do
      discard (sign ":")
      self .expression
  return a.line

/-- The comma after a parameter, or the end of all. -/
def endParameter : Reading Unit := first [discard (sign ","), look (sign f.close)]

def badDefault : Reading α := do
  let line ← sign "="
  look (signOf [")", ","])
  refuse line "expected default value expression"

def default : Reading Unit := first [
  do
    discard (sign "=")
    discard (self .expression),
  helping badDefault]

def bare : Reading Nat := do
  let line ← f.parameter self
  f.endParameter
  return line

def withDefault : Reading Nat := do
  let line ← f.parameter self
  default self
  f.endParameter
  return line

def perhapsDefault : Reading Nat := do
  let line ← f.parameter self
  skip (default self)
  f.endParameter
  return line

/-- A parameter whose hint is starred. -/
def starHinted : Reading Nat := do
  require !f.isLambda
  let a ← name
  discard (sign ":")
  discard (self .starExpression)
  f.endParameter
  return a.line

def slashBare : Reading Unit := do
  discard (some' (f.bare self))
  discard (sign "/")
  f.endParameter

def slashDefault : Reading Unit := do
  discard (many (f.bare self))
  discard (some' (f.withDefault self))
  discard (sign "/")
  f.endParameter

def slash : Reading Unit := first [f.slashBare self, f.slashDefault self]

/-! Common mistakes -/

def badAfterSpread : Reading α := do
  discard (sign "**")
  discard (f.parameter self)
  let misplaced := "arguments cannot follow var-keyword argument"
  first [
    do
      let line ← sign "="
      refuse line "var-keyword argument cannot have default value",
    do
      discard (sign ",")
      refuse (← f.parameter self) misplaced,
    do
      discard (sign ",")
      refuse (← signOf ["*", "**", "/"]) misplaced]

def spread : Reading Unit := first [
  helping (f.badAfterSpread self),
  do
    discard (sign "**")
    discard (f.bare self)]

def badAfterStar : Reading α := first [
  do
    let line ← sign "*"
    first [
      discard (sign f.close),
      do
        discard (sign ",")
        discard (signOf [f.close, "**"])]
    let message := "named arguments must follow bare *"
    if f.isLambda then refuseHere message else refuse line message,
  do
    discard (sign "*")
    discard (f.parameter self)
    refuse (← sign "=") "var-positional argument cannot have default value",
  do
    discard (sign "*")
    let another : Reading Nat := first [f.bare self, sign ","]
    discard another
    discard (many (f.perhapsDefault self))
    let line ← sign "*"
    discard another
    refuse line "* argument may appear only once"]

/-- Parameters from the first star on. -/
def afterStar : Reading Unit := first [
  helping (f.badAfterStar self),
  do
    discard (sign "*")
    discard (f.bare self)
    discard (many (f.perhapsDefault self))
    skip (f.spread self),
  do
    discard (sign "*")
    discard (f.starHinted self)
    discard (many (f.perhapsDefault self))
    skip (f.spread self),
  do
    discard (sign "*")
    discard (sign ",")
    discard (some' (f.perhapsDefault self))
    skip (f.spread self),
  f.spread self]

def badParameters : Reading α := first [
  do
    discard (many (f.bare self))
    first [f.slashDefault self, discard (some' (f.withDefault self))]
    refuse (← f.bare self) "non-default argument follows default argument",
  do
    discard (many (f.bare self))
    let line ← sign "("
    if f.isLambda then discard (separated (sign ",") (f.parameter self))
    else discard (some' (f.bare self))
    skip (sign ",")
    discard (sign ")")
    refuse line ((if f.isLambda then "Lambda expression" else "Function") ++
      " parameters cannot be parenthesized"),
  do
    let line ← sign "/"
    discard (sign ",")
    refuse line "at least one argument must precede /",
  do
    f.slash self
    discard (many (f.perhapsDefault self))
    refuse (← sign "/") "/ may appear only once",
  do
    skip (f.slash self)
    discard (many (f.perhapsDefault self))
    discard (sign "*")
    discard (first [sign ",", f.bare self])
    discard (many (f.perhapsDefault self))
    refuse (← sign "/") "/ must be ahead of *",
  do
    discard (some' (f.perhapsDefault self))
    discard (sign "/")
    refuse (← sign "*") "expected comma between / and *"]

/-- All parameters, of which there is one at least. -/
def parameters : Reading Unit := first [
  helping (f.badParameters self),
  do
    f.slashBare self
    discard (many (f.bare self))
    discard (many (f.withDefault self))
    skip (f.afterStar self),
  do
    f.slashDefault self
    discard (many (f.withDefault self))
    skip (f.afterStar self),
  do
    discard (some' (f.bare self))
    discard (many (f.withDefault self))
    skip (f.afterStar self),
  do
    discard (some' (f.withDefault self))
    skip (f.afterStar self),
  f.afterStar self]

end ParameterForm

def lambda (self : Self) : Reading Sketch :=
  sketch .lambda do
    discard (word "lambda")
    skip (ParameterForm.parameters { isLambda := true } self)
    discard (sign ":")
    discard (self .expression)
    return []

/-- An expression without the rules for common mistakes at its own level. -/
def plainExpression (self : Self) : Reading Sketch :=
  first [conditional self, self .disjunction, lambda self]

def expression (self : Self) : Reading Sketch := first [
  helping (badExpression self (plainExpression self)),
  helping (badOldStatement self),
  plainExpression self]

end Exemplar.Syntax.Diagnosis.Reading

namespace Exemplar.Syntax.Diagnosis.Reading

/-- A number; answers its line and whether it is imaginary. -/
def numberPart : Reading (Nat × Bool) := do
  let (line, c) ← take fun
    | .number c => some (some c)
    | .longNumber _ => some none
    | _ => none
  match c with
  | some (.imaginary _) => return (line, true)
  | _ => return (line, false)

def signedNumber : Reading (Nat × Bool) := do
  skip (sign "-")
  numberPart

/-- The sum or difference of a real number and an imaginary one. -/
def complexNumber : Reading Unit := do
  let (line, isImaginary) ← signedNumber
  if isImaginary then refuse line "real number required in complex literal"
  discard (signOf ["+", "-"])
  let (line, isImaginary) ← numberPart
  if !isImaginary then refuse line "imaginary number required in complex literal"

def literalPattern (self : Self) : Reading Unit := first [
  do
    discard signedNumber
    no (signOf ["+", "-"]),
  complexNumber,
  discard (self .texts),
  discard (first (["None", "True", "False"].map word))]

/-- A name with attributes behind it; answers how many. -/
def dotted : Reading Nat := do
  discard name
  return (← many do discard (sign "."); name).length

/-- A name with one attribute at least. -/
def dottedValue : Reading Unit := do require ((← dotted) != 0)

def noTarget : Reading Unit := no (signOf [".", "(", "="])

def captureName : Reading Unit := do
  no (word "_")
  discard name
  noTarget

def orPattern (self : Self) : Reading Unit :=
  discard (separated (sign "|") (self .closedPattern))

def badAlias (self : Self) : Reading α := do
  orPattern self
  discard (word "as")
  first [
    do refuse (← word "_") "cannot use '_' as a target",
    do
      no name
      let a ← self .expression
      refuse a.line "invalid pattern target"]

def pattern (self : Self) : Reading Unit := first [
  do
    orPattern self
    discard (word "as")
    captureName,
  helping (badAlias self),
  orPattern self]

def starPattern : Reading Unit := do
  discard (sign "*")
  first [captureName, discard (word "_")]

def itemPattern (self : Self) : Reading Unit := first [starPattern, pattern self]

def itemPatterns (self : Self) : Reading Unit := discard (commaList (itemPattern self))

/-- Patterns of which the first has a comma behind it. -/
def openSequence (self : Self) : Reading Unit := do
  itemPattern self
  discard (sign ",")
  skip (itemPatterns self)

def sequencePattern (self : Self) : Reading Unit := first [
  do
    discard (sign "[")
    skip (itemPatterns self)
    discard (sign "]"),
  do
    discard (sign "(")
    skip (openSequence self)
    discard (sign ")")]

def restPattern : Reading Unit := do
  discard (sign "**")
  captureName

def mappingPattern (self : Self) : Reading Unit := do
  let entries : Reading Unit :=
    discard (separated (sign ",") do
      first [literalPattern self, dottedValue]
      discard (sign ":")
      pattern self)
  let closing : Reading Unit := do
    skip (sign ",")
    discard (sign "\x7d")
  discard (sign "\x7b")
  first [
    discard (sign "\x7d"),
    do restPattern; closing,
    do entries; discard (sign ","); restPattern; closing,
    do entries; closing]

def placedPatterns (self : Self) : Reading Unit := discard (separated (sign ",") (pattern self))

def namedPatterns (self : Self) : Reading Unit :=
  discard (separated (sign ",") do
    discard name
    discard (sign "=")
    pattern self)

def badClassPattern (self : Self) : Reading α := do
  discard dotted
  discard (sign "(")
  skip do
    placedPatterns self
    discard (sign ",")
  namedPatterns self
  discard (sign ",")
  let line ← here
  placedPatterns self
  refuse line "positional patterns follow keyword patterns"

def classPattern (self : Self) : Reading Unit := do
  let closing : Reading Unit := do
    skip (sign ",")
    discard (sign ")")
  first [
    do
      discard dotted
      discard (sign "(")
      first [
        discard (sign ")"),
        do placedPatterns self; closing,
        do namedPatterns self; closing,
        do placedPatterns self; discard (sign ","); namedPatterns self; closing],
    helping (badClassPattern self)]

def closedPattern (self : Self) : Reading Sketch := do
  first [
    literalPattern self,
    captureName,
    discard (word "_"),
    do dottedValue; noTarget,
    do discard (sign "("); pattern self; discard (sign ")"),
    sequencePattern self,
    mappingPattern self,
    classPattern self]
  return .nothing

/-- The patterns of a case. -/
def casePattern (self : Self) : Reading Unit := first [openSequence self, pattern self]

end Exemplar.Syntax.Diagnosis.Reading
