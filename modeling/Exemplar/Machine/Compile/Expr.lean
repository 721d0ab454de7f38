import Exemplar.Machine.Compile.Standing

/-
  From expressions to code that puts their values on the stack. A part is met where the text of its
  scope mentions it and put where it is evaluated; where the two orders differ, the parts are met
  first and put together afterwards. What is only tested is compiled so that no truth is asked for
  twice.
-/

namespace Exemplar.Machine.Compile

/-- How many parts of a display are kept on the stack. -/
def maxOnStack : Nat := 30

/-- Whether some of the items spread. -/
def spreads (es : List Tree) : Bool :=
  es.any fun e => match e.form with
    | .starred _ => true
    | _ => false

/-- Code that waits for the topmost value. -/
def awaiting (giver : Option String) : Code := [.getAwaitable giver, .const .none, .yieldFrom]

/-! ### Truth -/

/-- An operand of `and` or `or`: its code, and where it is an operation of the other kind the code
of the operands of that. -/
structure Operand where
  code : Code
  parts : List Code := []

/-- Code for the operands of an inner operation whose truth settles the outer one; any other truth
is a mismatch. -/
def inner (truth : Bool) : List Code → Code
  | [] => []
  | [c] => c ++ [.unless truth [.mismatch]]
  | c :: cs => c ++ (if truth then [.require] else [.unary .not, .require]) ++ inner truth cs

/-- Code for operands of which the first with the given truth, or the last, is the value. -/
def settling (truth : Bool) : List Operand → Code
  | [] => []
  | [o] => o.code
  | o :: os =>
    match o.parts with
    | [] => o.code ++ [.unless truth (settling truth os)]
    | parts => [.choose (inner truth parts) (settling truth os)]

/-- Code for operands of which only the truth of the whole matters. -/
def testing (truth : Bool) : List Code → Code
  | [] => []
  | [c] => c
  | c :: cs =>
    let rest := testing truth cs
    let settled : Code := [.const (.bool truth)]
    c ++ [if truth then .branch settled rest else .branch rest settled]

/-- The truth that settles an operation early. -/
def truthOf (op : BoolOp) : Bool := op == .or

/-! ### Displays and arguments -/

/-- Code for a container of items. Those that spread and all after them are added one by one, and
so are many. -/
def displayCode (make : Nat → Instr) (items : List (Bool × Code)) : Code :=
  let atOnce := if maxOnStack < items.length then [] else items.takeWhile fun i => !i.1
  atOnce.flatMap (·.2) ++ make atOnce.length ::
    (items.drop atOnce.length).flatMap fun (isSpread, code) =>
      code ++ [if isSpread then .addAll else .add]

def tupleCode (items : List (Bool × Code)) : Code :=
  if maxOnStack < items.length || items.any (·.1) then
    displayCode .makeList items ++ [.listToTuple]
  else items.flatMap (·.2) ++ [.makeTuple items.length]

/-- Code for arguments by place; one that spreads and is alone is passed as it is. -/
def placesCode : List (Bool × Code) → Code
  | [(true, code)] => code
  | items => tupleCode items

/-- Code for so many entries and what makes a dictionary of them; many are added one by one. -/
def someEntries (entries : List (Code × Code)) : Code :=
  if 2 * entries.length ≤ maxOnStack then
    entries.flatMap (fun (k, v) => k ++ v) ++ [.makeDict entries.length]
  else .makeDict 0 :: entries.flatMap fun (k, v) => k ++ v ++ [.addEntry]

/-- Code for the entries of a dictionary; `pending` are those before, the last first, that are not
made yet, and `isMade` tells whether there is a dictionary on the stack. -/
def entriesCode (pending : List (Code × Code)) (isMade : Bool) :
    List (Option Code × Code) → Code
  | [] => flush ++ (if isMade || !pending.isEmpty then [] else [.makeDict 0])
  | (none, v) :: r =>
    flush ++ (if isMade || !pending.isEmpty then [] else [.makeDict 0]) ++ v ++
      .addAll :: entriesCode [] true r
  | (some k, v) :: r =>
    if maxOnStack < 2 * pending.length then
      someEntries ((k, v) :: pending).reverse ++ (if isMade then [.addAll] else []) ++
        entriesCode [] true r
    else entriesCode ((k, v) :: pending) isMade r
where
  flush : Code :=
    if pending.isEmpty then []
    else someEntries pending.reverse ++ (if isMade then [.addAll] else [])

/-- Code for a dictionary of arguments by name, some of which spread. -/
def namedCode (pending : List (Code × Code)) (isMade : Bool) :
    List (Option String × Code) → Code
  | [] => flush ++ (if isMade || !pending.isEmpty then [] else [.makeDict 0])
  | (none, v) :: r =>
    flush ++ (if isMade || !pending.isEmpty then [] else [.makeDict 0]) ++ v ++
      .addNamed :: namedCode [] true r
  | (some n, v) :: r => namedCode (([.const (.str n)], v) :: pending) isMade r
where
  flush : Code :=
    if pending.isEmpty then []
    else someEntries pending.reverse ++ (if isMade then [.addNamed] else [])

/-- How arguments by name are passed if none of them spreads. -/
def passings? (named : List (Option String × Code)) : Option (List Passing) :=
  named.mapM fun (n, _) => n.map Passing.named

/-- Whether a test holds for two values that are on the stack, the right one staying there for what
follows. -/
def chainTest (op : CompareOp) (rest : Code) : Code :=
  [.duplicate, .sink, .compare op, .branch rest [.drop, .const (.bool false)]]

/-! ### Comprehensions -/

/-- The variable that a comprehension takes its first iterator in. -/
def firstIterator : String := ".0"

def comprehensionName : Syntax.Comprehension → String
  | .list => "<listcomp>"
  | .set => "<setcomp>"
  | .dict => "<dictcomp>"
  | .generator => "<genexpr>"

/-- Code that begins what a comprehension collects in. -/
def collection : Syntax.Comprehension → Code
  | .list => [.makeList 0]
  | .set => [.makeSet 0]
  | .dict => [.makeDict 0]
  | .generator => []

/-- Code that takes the value of the element. -/
def collect : Syntax.Comprehension → Code
  | .list | .set => [.add]
  | .dict => [.addEntry]
  | .generator => [.yield, .drop]

def overIterator (isAsync : Bool) (body : Code) : Instr :=
  if isAsync then .forEachAsync body [] else .forEach body []

def iteratorOf (isAsync : Bool) : Instr := if isAsync then .getAsyncIter else .getIter

/-- Code for a comprehension whose loops over its first iterator are given: a function of that
iterator, which is called at once. -/
def comprehensionCode (c : Standing) (form : Syntax.Comprehension) (isAsync : Bool)
    (source : Code) (standing : Standing) (loops : Code) (account : Account) : Compiling Code := do
  let name := comprehensionName form
  let isGenerator := form == .generator
  let body := collection form ++ loops ++ (if isGenerator then [] else [.ret])
  let f := FunctionCode.mk name (c.qualify name) { ordinary := [firstIterator] }
    (manner isGenerator account.awaits) standing.vars .none body
  let call : Code := .makeFunction f 0 [] [] (c.captured standing.scope) :: source ++
    [iteratorOf isAsync, .call [.plain]]
  if account.awaits && !isGenerator then
    noteAwait
    return call ++ awaiting none
  else return call

/-! ### Expressions -/

/-- The value of an item that is known at once. -/
def known? (e : Tree) : Option Value :=
  match e.form with
  | .const k => some (.ofConstant k)
  | .unary _ (.mk _ (.const _)) => constant? e.expr
  | _ => none

mutual

/-- Code for the value of an expression, or for a value of its truth if it is only tested. -/
def tree (c : Standing) (isTest : Bool) : Tree → Compiling Code
  | .mk _ f => form c isTest f

def form (c : Standing) (isTest : Bool) : Form → Compiling Code
  | .const k => return [.const (.ofConstant k)]
  | .name n => return [if n == Syntax.debugName then .const (.bool true) else c.load n]
  | .attribute v n => return (← tree c false v) ++ [.loadAttr (c.mangle n)]
  | .subscript v i => return (← tree c false v) ++ (← tree c false i) ++ [.loadItem]
  | .call f as ks => do
    let callee ← tree c false f
    if spreads as || ks.any (·.name.isNone) then
      let args ← items c as
      let named ← keywords c ks
      return callee ++ placesCode args ++ (if ks.isEmpty then [] else namedCode [] false named) ++
        [.callSpread !ks.isEmpty]
    else
      let args ← trees c false as
      let named ← keywords c ks
      return callee ++ args.flatten ++ named.flatMap (·.2) ++
        [.call (args.map (fun _ => .plain) ++ (passings? named).getD [])]
  | .unary op e => do
    let code ← tree c (isTest && op == .not) e
    match known? (.mk 0 (.unary op e)) with
    | some v => return [.const v]
    | none => return code ++ [.unary op]
  | .binary l op r => return (← tree c false l) ++ (← tree c false r) ++ [.binary op]
  | .bool op es =>
    if isTest then return testing (truthOf op) (← trees c true es)
    else return settling (truthOf op) (← operands c op es)
  | .compare l rest => return (← tree c false l) ++ (← comparisons c isTest rest)
  | .conditional t a b => do
    let test ← tree c true t
    let yes ← tree c isTest a
    let no ← tree c isTest b
    return test ++ [.branch yes no]
  | .lambda ps body => do
    let places ← defaults c false ps
    let named ← defaults c true ps
    let scope ← nextScope
    let s := signature c ps
    let qualified := c.qualify "<lambda>"
    let inner := c.function scope qualified s.all
    let (code, account) := inside scope false (tree inner false body)
    let f := FunctionCode.mk "<lambda>" qualified s (manner account.yields account.awaits)
      inner.vars .none (code ++ [.ret])
    return places ++ named ++
      [.makeFunction f (defaultCount ps) (keywordDefaults c ps) [] (c.captured scope)]
  | .list es => return displayCode .makeList (← items c es)
  | .tuple es => do
    let code := tupleCode (← items c es)
    match es.mapM known? with
    | some vs => return [.const (.tuple vs)]
    | none => return code
  | .set es => do
    let code := displayCode .makeSet (← items c es)
    match (if 2 < es.length then constants? (Tree.exprs es) else none) with
    | some vs => return [.makeFixedSet false (c.order vs)]
    | none => return code
  | .dict es => do
    let ks ← keys c es
    let vs ← values c es
    return entriesCode [] false (ks.zip vs)
  | .listComp e cs =>
    comprehension c .list (fun standing => tree standing false e) cs
  | .setComp e cs =>
    comprehension c .set (fun standing => tree standing false e) cs
  | .generator e cs =>
    comprehension c .generator (fun standing => tree standing false e) cs
  | .dictComp k v cs =>
    comprehension c .dict (fun standing => do
      let value ← tree standing false v
      let key ← tree standing false k
      return key ++ value) cs
  | .await e => do
    noteAwait
    return (← tree c false e) ++ awaiting none
  | .yield e => do
    noteYield
    return (← option c e) ++ [.yield]
  | .yieldFrom e => do
    noteYield
    return (← tree c false e) ++ [.getYieldFrom, .const .none, .yieldFrom]
  | .named n e => return (← tree c false e) ++ [.duplicate, c.store n]
  | .starred e => tree c false e
  | .slice a b s =>
    return (← option c a) ++ (← option c b) ++ (← option c s) ++ [.makeSlice]
  | .joined es => do
    let codes ← trees c false es
    return codes.flatten ++ (if codes.length == 1 then [] else [.join codes.length])
  | .formatted e conversion spec => do
    let value ← tree c false e
    match spec with
    | none => return value ++ [.format conversion false]
    | some s => return value ++ (← tree c false s) ++ [.format conversion true]

def trees (c : Standing) (isTest : Bool) : List Tree → Compiling (List Code)
  | [] => return []
  | e :: es => return (← tree c isTest e) :: (← trees c isTest es)

/-- The value, or none where it is absent. -/
def option (c : Standing) : Option Tree → Compiling Code
  | none => return [.const .none]
  | some e => tree c false e

/-- Code for comparisons with the value on the stack. -/
def comparisons (c : Standing) (isTest : Bool) : List (CompareOp × Tree) → Compiling Code
  | [] => return []
  | [(op, e)] => return (← tree c false e) ++ [.compare op]
  | (op, e) :: rest => do
    let operand ← tree c false e
    let following ← comparisons c isTest rest
    return operand ++ (if isTest then chainTest op following else [.chain op following])

/-- The operands of `and` or `or`, those of an operation of the same kind inside it among them. -/
def operands (c : Standing) (op : BoolOp) : List Tree → Compiling (List Operand)
  | [] => return []
  | .mk _ (.bool op' inner) :: es =>
    if op' == op then return (← operands c op inner) ++ (← operands c op es)
    else do
      let parts ← operands c op' inner
      let others ← operands c op es
      return ⟨settling (truthOf op') parts, parts.map (·.code)⟩ :: others
  | e :: es => return ⟨← tree c false e, []⟩ :: (← operands c op es)

def keys (c : Standing) : List (Option Tree × Tree) → Compiling (List (Option Code))
  | [] => return []
  | (none, _) :: r => return none :: (← keys c r)
  | (some k, _) :: r => return some (← tree c false k) :: (← keys c r)

def values (c : Standing) : List (Option Tree × Tree) → Compiling (List Code)
  | [] => return []
  | (_, v) :: r => return (← tree c false v) :: (← values c r)

/-- Arguments by name; what spreads has none. -/
def keywords (c : Standing) : List TreeKeyword → Compiling (List (Option String × Code))
  | [] => return []
  | .mk n v _ :: ks => return (n, ← tree c false v) :: (← keywords c ks)

/-- The items of a display or the arguments by place, and whether they spread. -/
def items (c : Standing) : List Tree → Compiling (List (Bool × Code))
  | [] => return []
  | .mk _ (.starred e) :: es => return (true, ← tree c false e) :: (← items c es)
  | e :: es => return (false, ← tree c false e) :: (← items c es)

/-- The defaults of parameters that take arguments by name only, or of the others. -/
def defaults (c : Standing) (keywordOnly : Bool) : List TreeParameter → Compiling Code
  | [] => return []
  | .mk kind _ _ d _ :: ps => do
    let code ← match d with
      | some e => if (kind == .keywordOnly) == keywordOnly then tree c false e else pure []
      | none => pure []
    return code ++ (← defaults c keywordOnly ps)

/-- Code for what a loop goes over; a set that is known is made once. -/
def iterable (c : Standing) : Tree → Compiling Code
  | .mk _ f =>
    match f with
    | .set es =>
      match constants? (Tree.exprs es) with
      | some vs => return [.makeFixedSet true (c.order vs)]
      | none => return displayCode .makeSet (← items c es)
    | .list es => return tupleCode (← items c es)
    | f => form c false f

/-- Code for a comprehension. Its first iterator belongs to the scope around it. -/
def comprehension (c : Standing) (kind : Syntax.Comprehension)
    (element : Standing → Compiling Code) : List TreeClause → Compiling Code
  | [] => return []
  | .mk isAsync t i conditions :: cs => do
    let source ← iterable c i
    let scope ← nextScope
    let standing := c.comprehension scope (c.qualify (comprehensionName kind)) firstIterator
    let (body, account) := inside scope isAsync do
      let target ← storing standing t
      let tests ← filters standing conditions
      return target ++ tests ++ (← clauses standing kind (element standing) cs)
    let loops : Code := [.load (.own 0) firstIterator, overIterator isAsync body]
    comprehensionCode c kind isAsync source standing loops account

/-- Code for the clauses after the first, around the code for the element. -/
def clauses (c : Standing) (kind : Syntax.Comprehension) (element : Compiling Code) :
    List TreeClause → Compiling Code
  | [] => return (← element) ++ collect kind
  | .mk isAsync t i conditions :: cs => do
    let target ← storing c t
    let source ← iterable c i
    if isAsync then noteAwait
    let tests ← filters c conditions
    let body := target ++ tests ++ (← clauses c kind element cs)
    return source ++ [iteratorOf isAsync, overIterator isAsync body]

/-- Code that goes on to the next item unless all conditions hold. -/
def filters (c : Standing) : List Tree → Compiling Code
  | [] => return []
  | e :: es => do
    let test ← tree c true e
    return test ++ .branch [] [.again] :: (← filters c es)

/-- Code that takes a value off the stack into a target. -/
def storing (c : Standing) : Tree → Compiling Code
  | .mk _ f =>
    match f with
    | .name n => return [c.store n]
    | .attribute v n => return (← tree c false v) ++ [.storeAttr (c.mangle n)]
    | .subscript v i => return (← tree c false v) ++ (← tree c false i) ++ [.storeItem]
    | .tuple es | .list es => do
      let before := (es.takeWhile fun e => !spreads [e]).length
      let unpack : Instr :=
        if spreads es then .unpack before (some (es.length - before - 1))
        else .unpack es.length none
      return unpack :: (← storingAll c es)
    | .starred e => storing c e
    | _ => return [.drop]

def storingAll (c : Standing) : List Tree → Compiling Code
  | [] => return []
  | e :: es => return (← storing c e) ++ (← storingAll c es)

end

end Exemplar.Machine.Compile
