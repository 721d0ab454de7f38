import Exemplar.Syntax.Diagnosis.Reading

/-
  The rules of expressions in the order of the grammar, with the rules for common mistakes at their
  places. Rules inside a rule are read by `self`.
-/

namespace Exemplar.Syntax.Diagnosis.Reading

/-- How each rule is read. -/
abbrev Self := Rule → Reading Sketch

/-- What a rule reads as an expression of a kind. -/
def sketch (kind : SketchKind) (r : Reading (List Sketch)) : Reading Sketch := do
  let line ← here
  return .mk kind line (← r)

/-- The message about a sign of assignment that ought to compare. -/
def comparisonMeant : String :=
  "invalid syntax. Maybe you meant '==' or ':=' instead of '='?"

/-- Refuses the part of an expression that is no target. -/
def refuseTarget (place : TargetPlace) (e : Sketch) : Reading α := do
  match badTarget? place e with
  | some t =>
    let front := if place == .deletion then "cannot delete " else "cannot assign to "
    refuse t.line (front ++ t.kind.words)
  | none => failure

/-! Names and items -/

def assignmentExpression (self : Self) : Reading Sketch :=
  sketch .named do
    discard name
    discard (sign ":=")
    discard (self .expression)
    return []

def namedExpression (self : Self) : Reading Sketch := first [
  assignmentExpression self,
  helping (self .badNamed),
  do
    let e ← self .expression
    no (sign ":=")
    return e]

def starredOf (self : Self) (rule : Rule) : Reading Sketch :=
  sketch .starred do
    discard (sign "*")
    return [← self rule]

def starNamed (self : Self) : Reading Sketch := first [starredOf self .bitOr, namedExpression self]

/-- Items with commas between them: a tuple unless it is one without a comma. -/
def tupleOf (item : Reading Sketch) : Reading Sketch := do
  let line ← here
  let a ← item
  let rest ← many do discard (sign ","); item
  let comma ← optional (sign ",")
  return if rest.isEmpty && comma.isNone then a else .mk .tuple line (a :: rest)

def starExpressions (self : Self) : Reading Sketch := tupleOf (self .starExpression)

def expressions (self : Self) : Reading Sketch := tupleOf (self .expression)

def yieldExpression (self : Self) : Reading Sketch :=
  sketch .yield do
    discard (word "yield")
    first [
      do
        discard (word "from")
        discard (self .expression),
      skip (starExpressions self)]
    return []

/-! Comprehensions -/

def starTargets (self : Self) : Reading Sketch := tupleOf (self .starTarget)

def badLoopTarget (self : Self) : Reading α := do
  skip (word "async")
  discard (word "for")
  refuseTarget .loop (← starExpressions self)

/-- One `for`: after its `in` nothing else is tried. -/
def clause (self : Self) : Reading Unit := do
  let front : Reading Unit := do
    discard (word "for")
    discard (starTargets self)
    discard (word "in")
  match ← attempt (first [do discard (word "async"); front, front]) with
  | some _ =>
    discard (self .disjunction)
    discard (many do discard (word "if"); self .disjunction)
  | none => helping (badLoopTarget self)

def clauses (self : Self) : Reading Unit := discard (some' (clause self))

/-- A starred item, or items without parentheses, in front of a comprehension. -/
def badComprehension (self : Self) : Reading Sketch := first [
  do
    discard (signOf ["[", "(", "\x7b"])
    let a ← starredOf self .expression
    clauses self
    refuse a.line "iterable unpacking cannot be used in comprehension",
  do
    discard (signOf ["[", "\x7b"])
    let a ← starNamed self
    discard (sign ",")
    discard (commaList (starNamed self))
    clauses self
    refuse a.line "did you forget parentheses around the comprehension target?",
  do
    discard (signOf ["[", "\x7b"])
    let a ← starNamed self
    discard (sign ",")
    clauses self
    refuse a.line "did you forget parentheses around the comprehension target?"]

def badDictComprehension (self : Self) : Reading Sketch := do
  discard (sign "\x7b")
  let line ← sign "**"
  discard (self .bitOr)
  clauses self
  discard (sign "\x7d")
  refuse line "dict unpacking cannot be used in dict comprehension"

/-! Brackets -/

/-- An expression that is not bound to a name. -/
def plainArgument (self : Self) : Reading Sketch := first [
  assignmentExpression self,
  do
    let e ← self .expression
    no (sign ":=")
    return e]

def tupleAtom (self : Self) : Reading Sketch :=
  sketch .tuple do
    discard (sign "(")
    let items ← optional do
      let a ← starNamed self
      discard (sign ",")
      let rest ← optional (commaList (starNamed self))
      return a :: rest.getD []
    discard (sign ")")
    return items.getD []

def badGroup (self : Self) : Reading Sketch := first [
  do
    discard (sign "(")
    let a ← starredOf self .expression
    discard (sign ")")
    refuse a.line "cannot use starred expression here",
  do
    discard (sign "(")
    let line ← sign "**"
    discard (self .expression)
    discard (sign ")")
    refuse line "cannot use double starred expression here"]

def group (self : Self) : Reading Sketch := first [
  do
    discard (sign "(")
    let e ← first [yieldExpression self, namedExpression self]
    discard (sign ")")
    return e,
  helping (badGroup self)]

def generator (self : Self) : Reading Sketch := first [
  sketch .generator do
    discard (sign "(")
    discard (plainArgument self)
    clauses self
    discard (sign ")")
    return [],
  helping (badComprehension self)]

def listAtom (self : Self) : Reading Sketch :=
  sketch .list do
    discard (sign "[")
    let items ← optional (commaList (starNamed self))
    discard (sign "]")
    return items.getD []

def listComprehension (self : Self) : Reading Sketch := first [
  sketch .listComp do
    discard (sign "[")
    discard (namedExpression self)
    clauses self
    discard (sign "]")
    return [],
  helping (badComprehension self)]

def keyAndValue (self : Self) : Reading Unit := do
  discard (self .expression)
  discard (sign ":")
  discard (self .expression)

def entry (self : Self) : Reading Unit := first [
  do
    discard (sign "**")
    discard (self .bitOr),
  keyAndValue self]

def endOfValue : Reading Unit := look (signOf ["\x7d", ","])

/-- An entry whose value is starred or missing. -/
def badValue (self : Self) : Reading α := first [
  do
    discard (self .expression)
    discard (sign ":")
    let line ← sign "*"
    discard (self .bitOr)
    refuse line "cannot use a starred expression in a dictionary value",
  do
    discard (self .expression)
    let line ← sign ":"
    endOfValue
    refuse line "expression expected after dictionary key and ':'"]

/-- A mistake in entries, sought whether mistakes are asked for or not. -/
def badEntries (self : Self) : Reading α := first [
  do
    discard (separated (sign ",") (entry self))
    discard (sign ",")
    first [
      do
        let a ← self .expression
        no (sign ":")
        refuse a.line "':' expected after dictionary key",
      badValue self],
  badValue self]

def dictAtom (self : Self) : Reading Sketch := first [
  sketch .dict do
    discard (sign "\x7b")
    skip (commaList (entry self))
    discard (sign "\x7d")
    return [],
  do
    discard (sign "\x7b")
    badEntries self]

def setAtom (self : Self) : Reading Sketch :=
  sketch .set do
    discard (sign "\x7b")
    let items ← commaList (starNamed self)
    discard (sign "\x7d")
    return items

def dictComprehension (self : Self) : Reading Sketch := first [
  sketch .dictComp do
    discard (sign "\x7b")
    keyAndValue self
    clauses self
    discard (sign "\x7d")
    return [],
  helping (badDictComprehension self)]

def setComprehension (self : Self) : Reading Sketch := first [
  sketch .setComp do
    discard (sign "\x7b")
    discard (namedExpression self)
    clauses self
    discard (sign "\x7d")
    return [],
  helping (badComprehension self)]

/-! Atoms -/

def quotation : Reading (Nat × Quotation) :=
  take fun
    | .text q => some q
    | _ => none

/-- Texts side by side, which are examined at once. -/
def texts : Reading Sketch := do
  let line ← here
  let qs ← some' quotation
  let s ← source
  let t : TextCheck := { field := s.field, front := s.front, seen := ← seen }
  match t.quotations none qs with
  | .error f => refuseWith ⟨f, some t.seen⟩
  | .ok _ => return .mk (if qs.any (·.2.formatted) then .formatted else .literal) line []

def number : Reading Sketch := do
  let (line, long) ← take fun
    | .number _ => some none
    | .longNumber digits => some (some digits)
    | _ => none
  match long with
  | some digits => refuse line (longNumberMessage digits)
  | none => return .mk .literal line []

def constant (w : String) (kind : SketchKind) : Reading Sketch := do
  return .mk kind (← word w) []

def atom (self : Self) : Reading Sketch := do
  match (← peek).lexeme with
  | .word "True" => constant "True" .true
  | .word "False" => constant "False" .false
  | .word "None" => constant "None" .none
  | .word _ => name
  | .text _ => self .texts
  | .number _ | .longNumber _ => number
  | .op "(" => first [tupleAtom self, group self, generator self]
  | .op "[" => first [listAtom self, listComprehension self]
  | .op "\x7b" =>
    first [dictAtom self, setAtom self, dictComprehension self, setComprehension self]
  | .op "..." => return .mk .ellipsis (← sign "...") []
  | _ => failure

def slice (self : Self) : Reading Unit := first [
  do
    skip (self .expression)
    discard (sign ":")
    skip (self .expression)
    skip do
      discard (sign ":")
      skip (self .expression),
  discard (namedExpression self)]

def slices (self : Self) : Reading Unit := first [
  do
    slice self
    no (sign ","),
  discard (commaList (first [slice self, discard (starredOf self .expression)]))]

/-- A trailer of what stands before, which starts on a line; `after` must be what follows. -/
def trailer (self : Self) (line : Nat) (after : Reading Unit) : Reading Sketch := first [
  do
    discard (sign ".")
    discard name
    after
    return .mk .attribute line [],
  do
    discard (generator self)
    after
    return .mk .call line [],
  do
    discard (sign "(")
    skip (self .arguments)
    discard (sign ")")
    after
    return .mk .call line [],
  do
    discard (sign "[")
    slices self
    discard (sign "]")
    after
    return .mk .subscript line []]

def primary (self : Self) : Reading Sketch := do
  let line ← here
  grow (fun _ => trailer self line (return ())) (← atom self)

/-! Operators -/

/-- Operands of the next level with operators between them. -/
def operation (self : Self) (ops : List String) (next : Rule) : Reading Sketch := do
  let line ← here
  let step (_ : Sketch) : Reading Sketch := do
    discard (signOf ops)
    discard (self next)
    return .mk .operation line []
  grow step (← self next)

def awaitPrimary (self : Self) : Reading Sketch := first [
  sketch .await do
    discard (word "await")
    return [← self .primary],
  self .primary]

def power (self : Self) : Reading Sketch := do
  let line ← here
  let a ← self .awaitPrimary
  first [
    do
      discard (sign "**")
      discard (self .factor)
      return .mk .operation line [],
    return a]

def factor (self : Self) : Reading Sketch := first [
  sketch .operation do
    discard (signOf ["+", "-", "~"])
    return [← self .factor],
  power self]

/-- An operator that compares; answers whether it is `in`. -/
def compareOp : Reading Bool := first [
  do
    discard (signOf ["==", "!=", "<=", "<", ">=", ">"])
    return false,
  do
    discard (word "not")
    discard (word "in")
    return false,
  do
    discard (word "in")
    return true,
  do
    discard (word "is")
    skip (word "not")
    return false]

def comparison (self : Self) : Reading Sketch := do
  let line ← here
  let left ← self .bitOr
  let rest ← many do
    let isIn ← compareOp
    discard (self .bitOr)
    return isIn
  match rest with
  | [] => return left
  | isIn :: _ => return .mk (.comparison isIn) line [left]

def inversion (self : Self) : Reading Sketch := first [
  sketch .operation do
    discard (word "not")
    return [← self .inversion],
  comparison self]

/-- Operands with a connective between them. -/
def connected (self : Self) (w : String) (next : Rule) : Reading Sketch := do
  let line ← here
  let a ← self next
  let rest ← many do discard (word w); self next
  return if rest.isEmpty then a else .mk .operation line []

/-! Whole expressions -/

def conditional (self : Self) : Reading Sketch :=
  sketch .conditional do
    discard (self .disjunction)
    discard (word "if")
    discard (self .disjunction)
    discard (word "else")
    discard (self .expression)
    return []

/-- Statements of old that look like a name with expressions behind it. -/
def isOldStatement (e : Sketch) : Bool := e.kind == .name "print" || e.kind == .name "exec"

/-- Names that serve as keywords in some places. -/
def softKeyword : Reading Nat := first (["_", "case", "match"].map word)

/-- The number of brackets that are open after the last token taken. -/
def depth : Reading Nat := do
  return ((← source).depths[(← mark) - 1]?).getD 0

/-- Two expressions side by side, or a condition without its other branch. -/
def badExpression (self : Self) (plain : Reading Sketch) : Reading Sketch := do
  let adjacent : Reading Sketch := do
    no (first [do discard name; discard quotation, discard softKeyword])
    let a ← self .disjunction
    discard (withoutHelp plain)
    return a
  match ← attempt adjacent with
  | some a =>
    require !(isOldStatement a)
    require ((← depth) != 0)
    refuse a.line "invalid syntax. Perhaps you forgot a comma?"
  | none =>
    let a ← self .disjunction
    discard (word "if")
    discard (self .disjunction)
    no (first [word "else", sign ":"])
    refuse a.line "expected 'else' after 'if' expression"

def badOldStatement (self : Self) : Reading Sketch := do
  let a ← name
  no (sign "(")
  discard (starExpressions self)
  match a.kind with
  | .name id =>
    require (isOldStatement a)
    refuse a.line ("Missing parentheses in call to '" ++ id ++ "'. Did you mean " ++ id ++ "(...)?")
  | _ => failure

def badNamed (self : Self) : Reading Sketch := first [
  do
    let a ← self .expression
    discard (sign ":=")
    discard (self .expression)
    refuse a.line ("cannot use assignment expressions with " ++ a.kind.words),
  do
    let a ← name
    discard (sign "=")
    discard (self .bitOr)
    no (signOf ["=", ":="])
    refuse a.line comparisonMeant,
  do
    no (first [listAtom self, tupleAtom self, generator self, constant "True" .true,
      constant "None" .none, constant "False" .false])
    let a ← self .bitOr
    discard (sign "=")
    discard (self .bitOr)
    no (signOf ["=", ":="])
    refuse a.line
      ("cannot assign to " ++ a.kind.words ++ " here. Maybe you meant '==' instead of '='?")]

def starExpression (self : Self) : Reading Sketch :=
  first [starredOf self .bitOr, self .expression]

/-! Arguments -/

/-- Arguments after those that stand for their place alone: with a name, or spread. -/
def badKeyword (self : Self) : Reading Sketch := first [
  do
    let a ← first [constant "True" .true, constant "False" .false, constant "None" .none]
    discard (sign "=")
    refuse a.line ("cannot assign to " ++ a.kind.words),
  do
    let a ← name
    discard (sign "=")
    discard (self .expression)
    clauses self
    refuse a.line comparisonMeant,
  do
    no do discard name; sign "="
    let a ← self .expression
    discard (sign "=")
    refuse a.line "expression cannot contain assignment, perhaps you meant \"==\"?"]

def keyword (self : Self) : Reading Sketch :=
  sketch .keyword do
    discard name
    discard (sign "=")
    discard (self .expression)
    return []

def keywordOrStarred (self : Self) : Reading Sketch :=
  first [helping (badKeyword self), keyword self, starredOf self .expression]

def keywordOrSpread (self : Self) : Reading Sketch := first [
  helping (badKeyword self),
  keyword self,
  sketch .spread do
    discard (sign "**")
    discard (self .expression)
    return []]

def keywordArguments (self : Self) : Reading (List Sketch) := first [
  do
    let a ← separated (sign ",") (keywordOrStarred self)
    discard (sign ",")
    return a ++ (← separated (sign ",") (keywordOrSpread self)),
  separated (sign ",") (keywordOrStarred self),
  separated (sign ",") (keywordOrSpread self)]

/-- Arguments as a sketch whose parts are those that are passed by place. -/
def argumentList (self : Self) : Reading Sketch := do
  let line ← here
  let gather (placed others : List Sketch) : Sketch :=
    .mk (.arguments (others.any (·.kind == .spread))) line
      (placed ++ others.filter (·.kind == .starred))
  first [
    do
      let placed ← separated (sign ",") do
        let a ← first [starredOf self .expression, plainArgument self]
        no (sign "=")
        return a
      let others ← optional do
        discard (sign ",")
        keywordArguments self
      return gather placed (others.getD []),
    return gather [] (← keywordArguments self)]

/-- The message about a comprehension among other arguments. -/
def unparenthesized : String := "Generator expression must be parenthesized"

def badArguments (self : Self) : Reading Sketch := do
  let comprehended : Reading Sketch := do
    let a ← self .expression
    clauses self
    return a
  let simple ← attempt (first [
    do
      let a ← argumentList self
      discard (sign ",")
      discard (sign "*")
      refuse a.line "iterable argument unpacking follows keyword argument unpacking",
    do
      let a ← comprehended
      discard (sign ",")
      skip (first [comprehended, argumentList self])
      refuse a.line unparenthesized,
    do
      let a ← name
      discard (sign "=")
      discard (self .expression)
      clauses self
      refuse a.line comparisonMeant,
    do
      let a ← argumentList self
      clauses self
      return a])
  match simple with
  | some a =>
    match a.parts.reverse with
    | last :: _ :: _ => refuse last.line unparenthesized
    | _ => failure
  | none => first [
    do
      discard (argumentList self)
      discard (sign ",")
      let a ← comprehended
      refuse a.line unparenthesized,
    do
      let a ← argumentList self
      discard (sign ",")
      discard (argumentList self)
      refuseHere (if a.kind == .arguments true then
        "positional argument follows keyword argument unpacking"
        else "positional argument follows keyword argument")]

def arguments (self : Self) : Reading Sketch := first [
  do
    let a ← argumentList self
    skip (sign ",")
    look (sign ")")
    return a,
  helping (badArguments self)]

/-! Targets -/

def targetAhead : Reading Unit := discard (signOf ["(", "[", "."])

/-- What an attribute or an item of a target is taken from. -/
def targetPrimary (self : Self) : Reading Sketch := do
  let line ← here
  let a ← atom self
  look targetAhead
  grow (fun _ => trailer self line (look targetAhead)) a

/-- An attribute or an item, with nothing taken from it. -/
def lastTrailer (self : Self) : Reading Sketch := first [
  sketch .attribute do
    discard (self .targetPrimary)
    discard (sign ".")
    discard name
    no targetAhead
    return [],
  sketch .subscript do
    discard (self .targetPrimary)
    discard (sign "[")
    slices self
    discard (sign "]")
    no targetAhead
    return []]

/-- Targets between brackets. -/
def bracketed (kind : SketchKind) (opening closing : String) (item : Reading Sketch) :
    Reading Sketch :=
  sketch kind do
    discard (sign opening)
    let items ← optional (commaList item)
    discard (sign closing)
    return items.getD []

/-- Targets between parentheses, which make a tuple: one needs a comma behind it. -/
def tupleTargets (item : Reading Sketch) : Reading (List Sketch) := first [
  do
    let a ← item
    let rest ← some' do discard (sign ","); item
    skip (sign ",")
    return a :: rest,
  do
    let a ← item
    discard (sign ",")
    return [a]]

def starAtom (self : Self) : Reading Sketch := first [
  name,
  do
    discard (sign "(")
    let a ← self .starAtomTarget
    discard (sign ")")
    return a,
  sketch .tuple do
    discard (sign "(")
    let items ← optional (tupleTargets (self .starTarget))
    discard (sign ")")
    return items.getD [],
  bracketed .list "[" "]" (self .starTarget)]

def starTarget (self : Self) : Reading Sketch := first [
  sketch .starred do
    discard (sign "*")
    no (sign "*")
    return [← self .starTarget],
  self .starAtomTarget]

def starAtomTarget (self : Self) : Reading Sketch := first [lastTrailer self, starAtom self]

def singleTarget (self : Self) : Reading Sketch := first [
  lastTrailer self,
  name,
  do
    discard (sign "(")
    let a ← self .singleTarget
    discard (sign ")")
    return a]

def deletedTarget (self : Self) : Reading Sketch := first [
  lastTrailer self,
  name,
  do
    discard (sign "(")
    let a ← self .deletedTarget
    discard (sign ")")
    return a,
  bracketed .tuple "(" ")" (self .deletedTarget),
  bracketed .list "[" "]" (self .deletedTarget)]

end Exemplar.Syntax.Diagnosis.Reading
