import Exemplar.Machine.Compile.Expr
import Exemplar.Syntax.Printer
import Exemplar.Syntax.Scope.Mention

/-
  From statements to code, and the code of a whole file or of a call.
-/

namespace Exemplar.Machine.Compile

/-! ### Patterns -/

mutual

/-- The names that a pattern binds, each once. -/
def patternNames : Pattern → List String
  | .value _ _ => []
  | .sequence ps _ => patternsNames ps
  | .mapping es rest _ => entriesNames es ++ rest.toList
  | .classOf _ ps ks _ => patternsNames ps ++ attributesNames ks
  | .star n _ => n.toList
  | .capture inner n _ => optionNames inner ++ n.toList
  | .alternatives (p :: _) _ => patternNames p
  | .alternatives [] _ => []

def patternsNames : List Pattern → List String
  | [] => []
  | p :: ps => patternNames p ++ patternsNames ps

def optionNames : Option Pattern → List String
  | none => []
  | some p => patternNames p

def entriesNames : List (Tree × Pattern) → List String
  | [] => []
  | (_, p) :: r => patternNames p ++ entriesNames r

def attributesNames : List (String × Pattern) → List String
  | [] => []
  | (_, p) :: r => patternNames p ++ attributesNames r

end

/-- Whether a value in a pattern has to be that very value. -/
def isSingle (e : Tree) : Bool :=
  match e.form with
  | .const .none | .const (.bool _) => true
  | _ => false

def isStar : Pattern → Bool
  | .star _ _ => true
  | _ => false

/-- Code that puts the topmost value aside by a name, or drops it. -/
def putAside : Option String → Code
  | some n => [.capture n]
  | none => [.drop]

mutual

/-- Code that takes the topmost value off the stack if it fits the pattern, and otherwise meets a
mismatch. -/
def pattern (c : Standing) : Pattern → Compiling Code
  | .value e _ =>
    return (← tree c false e) ++ [.compare (if isSingle e then .is else .eq), .require]
  | .sequence ps _ => do
    let before := (ps.takeWhile fun p => !isStar p).length
    let after := if before < ps.length then some (ps.length - before - 1) else none
    return .matchSequence before after :: (← patterns c ps)
  | .mapping es rest _ => do
    let keys ← trees c false (es.map (·.1))
    let parts ← entryPatterns c es
    let start : Code := [.matchMapping es.length]
    if es.isEmpty && rest.isNone then return start ++ [.drop]
    else
      return start ++ keys.flatten ++ [.makeTuple es.length, .matchKeys rest.isSome] ++ parts ++
        (if rest.isSome then putAside rest else [])
  | .classOf cls ps ks _ => do
    let code ← tree c false cls
    let places ← patterns c ps
    let named ← attributePatterns c ks
    return code ++ .matchClass ps.length (ks.map (·.1)) :: places ++ named
  | .star n _ => return putAside n
  | .capture none n _ => return putAside n
  | .capture (some p) n _ => return .duplicate :: (← pattern c p) ++ putAside n
  | .alternatives ps _ => alternatives c ps

def patterns (c : Standing) : List Pattern → Compiling Code
  | [] => return []
  | p :: ps => return (← pattern c p) ++ (← patterns c ps)

def entryPatterns (c : Standing) : List (Tree × Pattern) → Compiling Code
  | [] => return []
  | (_, p) :: r => return (← pattern c p) ++ (← entryPatterns c r)

def attributePatterns (c : Standing) : List (String × Pattern) → Compiling Code
  | [] => return []
  | (_, p) :: r => return (← pattern c p) ++ (← attributePatterns c r)

/-- Code that tries patterns in turn. -/
def alternatives (c : Standing) : List Pattern → Compiling Code
  | [] => return [.mismatch]
  | [p] => pattern c p
  | p :: ps => return [.choose (← pattern c p) (← alternatives c ps)]

end

/-! ### Hints -/

/-- The hints of the parameters of a function and of what it returns, in the order in which a text
mentions them. -/
def mentionedHints (ps : List TreeParameter) (returns : Option Tree) :
    List (Option ParameterKind × String × Tree) :=
  let kinds : List ParameterKind :=
    [.positionalOnly, .ordinary, .variadic, .keywordVariadic, .keywordOnly]
  kinds.flatMap (fun k => (ps.filter (·.kind == k)).filterMap fun p =>
    p.hint.map fun h => (some k, p.name, h)) ++
    returns.toList.map fun h => (none, "return", h)

/-- Code for a hint. -/
def hint (c : Standing) (h : Tree) : Compiling Code :=
  if c.lazyHints then return [.const (.str (Syntax.print h.expr))]
  else do
    let code ← tree c false h
    return code ++ (if spreads [h] then [.unpack 1 none] else [])

/-- Names and code for the hints of a function, in the order in which they are evaluated. -/
def hints (c : Standing) (ps : List TreeParameter) (returns : Option Tree) :
    Compiling (List (String × Code)) := do
  let codes ← (mentionedHints ps returns).mapM fun (k, n, h) => do
    return (k, c.mangle n, ← hint c h)
  let kinds : List (Option ParameterKind) :=
    [some .ordinary, some .positionalOnly, some .variadic, some .keywordOnly,
     some .keywordVariadic, none]
  return kinds.flatMap fun k => (codes.filter (·.1 == k)).map (·.2)

mutual

/-- Whether a name is given a hint among statements, those inside compound ones included. -/
def hasHints : List Stmt → Bool
  | [] => false
  | .mk a _ _ :: ss => actionHasHints a || hasHints ss

def actionHasHints : Action → Bool
  | .annAssign _ _ _ _ => true
  | .forIn _ _ _ b o | .whileTrue _ b o | .ifTrue _ b o => hasHints b || hasHints o
  | .withItems _ _ b => hasHints b
  | .tryBlock b hs o f _ => hasHints b || handlersHaveHints hs || hasHints o || hasHints f
  | _ => false

def handlersHaveHints : List Handler → Bool
  | [] => false
  | .mk _ _ b _ :: hs => hasHints b || handlersHaveHints hs

end

/-- Code for the parts of a target that is given a hint and no value. -/
def indexParts (c : Standing) (i : Tree) : Compiling Code := do
  let parts := match i.form with
    | .slice a b s => [a, b, s].filterMap id
    | .tuple es => es
    | _ => [i]
  return ((← trees c false parts).map (· ++ [.drop])).flatten

/-- Code for the target of a hint: what stores a value, or what evaluates its parts. -/
def hintedTarget (c : Standing) (t : Tree) (hasValue : Bool) : Compiling Code :=
  if hasValue then storing c t
  else match t.form with
  | .attribute v _ => return (← tree c false v) ++ [.drop]
  | .subscript v i => return (← tree c false v) ++ .drop :: (← indexParts c i)
  | _ => return []

/-- The text that the statements of a body begin with, if they do. -/
def docOf (body : List Stmt) : Option Value :=
  match body with
  | s :: _ =>
    match s.action with
    | .expr (.mk _ (.const (.str text _))) => some (.str text)
    | _ => none
  | [] => none

/-- Code that the statements of a file or a class begin with. -/
def preamble (c : Standing) (body : List Stmt) : Code :=
  (if hasHints body then [.setupHints] else []) ++
    ((docOf body).map fun d => [.const d, c.store "__doc__"]).getD []

/-! ### Parts of statements -/

mutual

/-- Code that deletes a target. -/
def deleting (c : Standing) : Tree → Compiling Code
  | .mk _ f =>
    match f with
    | .name n => return [c.delete n]
    | .attribute v n => return (← tree c false v) ++ [.deleteAttr (c.mangle n)]
    | .subscript v i => return (← tree c false v) ++ (← tree c false i) ++ [.deleteItem]
    | .tuple es | .list es => deletingAll c es
    | _ => return []

def deletingAll (c : Standing) : List Tree → Compiling Code
  | [] => return []
  | e :: es => return (← deleting c e) ++ (← deletingAll c es)

end

/-- Code that updates a target by an operation. -/
def updating (c : Standing) (target : Tree) (op : BinaryOp) (value : Tree) : Compiling Code := do
  match target.form with
  | .name n =>
    return c.load n :: (← tree c false value) ++ [.update op, c.store n]
  | .attribute v n =>
    let owner ← tree c false v
    let name := c.mangle n
    return owner ++ [.duplicate, .loadAttr name] ++ (← tree c false value) ++
      [.update op, .swap, .storeAttr name]
  | .subscript v i =>
    let container ← tree c false v
    let index ← tree c false i
    return container ++ index ++ [.duplicatePair, .loadItem] ++ (← tree c false value) ++
      [.update op, .sink, .storeItem]
  | _ => return []

/-- A dotted name is no private one. -/
def mangleModule (c : Standing) (path : List String) : String :=
  match path with
  | [name] => c.mangle name
  | path => ".".intercalate path

/-- Code that binds one module. -/
def importModule (c : Standing) (i : Import) : Code :=
  let load : Instr := .importModule (mangleModule c i.path) 0 none
  match i.alias? with
  | none => [load, c.store (i.path.headD "")]
  | some a =>
    load :: (i.path.drop 1).flatMap (fun part => [.importFrom (c.mangle part), .swap, .drop]) ++
      [c.store a]

/-- Code that binds names of a module on the stack. -/
def importNames (c : Standing) : List Import → Code
  | [] => [.drop]
  | i :: is =>
    let name := i.path.headD ""
    .importFrom (c.mangle name) :: c.store (i.alias?.getD name) :: importNames c is

/-- The items of a `with`: code for the contexts and for what takes their values. -/
def contexts (c : Standing) (items : List (Tree × Option Tree)) : Compiling (List (Code × Code)) :=
  items.mapM fun (e, target) => do
    let code ← tree c false e
    match target with
    | some t => return (code, ← storing c t)
    | none => return (code, [.drop])

/-- Code for contexts around the code of a body. -/
def inContexts (isAsync : Bool) (body : Code) : List (Code × Code) → Code
  | [] => body
  | (code, keep) :: rest =>
    code ++ .enterContext isAsync ::
      (if isAsync then awaiting (some "__aenter__") else []) ++
      [.using isAsync (keep ++ inContexts isAsync body rest)]

/-- Code that applies as many decorators as given to the value on the stack. -/
def decorate (n : Nat) : Code := List.replicate n (.call [.plain])

/-- Code that makes a class of what is on the stack. -/
def makingClass (name : String) (body : FunctionCode) (captured : List Nat)
    (bases : List (Bool × Code)) (named : List (Option String × Code)) : Code :=
  match bases.any (·.1), passings? named with
  | false, some passings =>
    bases.flatMap (·.2) ++ named.flatMap (·.2) ++
      [.makeClass name body captured (bases.map (fun _ => .plain) ++ passings)]
  | _, _ =>
    .const (.builtin "__build_class__") :: tupleCode bases ++
      (if named.isEmpty then [] else namedCode [] false named) ++
      [.makeClassSpread name body captured !named.isEmpty]

/-- Code that binds the exception being handled to a name as long as a body runs. -/
def handlingAs (c : Standing) (name : Option String) (body : Code) : Code :=
  match name with
  | none => body
  | some n =>
    [.loadHandled, c.store n, .attemptFinally body [.const .none, c.store n, c.delete n]]

/-- Code for one handler in front of the code of the others. -/
def handling (grouped : Bool) (type : Option Code) (body rest : Code) : Code :=
  match type with
  | none => body
  | some t =>
    if grouped then t ++ [.splitGroup, .handleGroup body] ++ rest
    else t ++ [.matchesHandled, .branch body rest]

/-! ### Statements -/

mutual

def stmt (c : Standing) : Stmt → Compiling Code
  | .mk a _ _ => action c a

def action (c : Standing) : Action → Compiling Code
  | .function isAsync name ps returns ds body => do
    let places ← defaults c false ps
    let named ← defaults c true ps
    let hints ← hints c ps returns
    let decorators ← trees c false ds
    let scope ← nextScope
    let s := signature c ps
    let qualified := c.qualify name
    let inner := c.function scope qualified s.all
    let (code, account) := inside scope isAsync (stmts inner body)
    let f := FunctionCode.mk name qualified s (manner account.yields account.awaits)
      inner.vars ((docOf body).getD .none) code
    return decorators.flatten ++ places ++ named ++ hints.flatMap (·.2) ++
      .makeFunction f (defaultCount ps) (keywordDefaults c ps) (hints.map (·.1))
        (c.captured scope) ::
      decorate ds.length ++ [c.store name]
  | .classDef name bs ks ds body => do
    let bases ← items c bs
    let named ← keywords c ks
    let decorators ← trees c false ds
    let scope ← nextScope
    let qualified := c.qualify name
    let inner := c.classBody scope name qualified
    let (code, _) := inside scope false (stmts inner body)
    let start : Code := [inner.load "__name__", inner.store "__module__",
      .const (.str qualified), inner.store "__qualname__"]
    let f := FunctionCode.mk name qualified {} .plain inner.vars .none
      (start ++ preamble inner body ++ code)
    return decorators.flatten ++ makingClass name f (c.captured scope) bases named ++
      decorate ds.length ++ [c.store name]
  | .ret v => return (← option c v) ++ [.ret]
  | .delete ts => deletingAll c ts
  | .assign ts v => do
    let targets ← targets c ts
    return (← tree c false v) ++ targets
  | .augAssign t op v => updating c t op v
  | .annAssign t h v simple => do
    let target ← hintedTarget c t v.isSome
    let hint ← if c.lazyHints && !simple then pure [] else hint c h
    let value ← match v with
      | some e => tree c false e
      | none => pure []
    let isEvaluated := c.scope.isFile || c.scope.isClass
    let keep : Code := match t.form, simple with
      | .name n, true => hint ++ [.storeHint (c.mangle n)]
      | _, true => []
      | _, false => if c.lazyHints then [] else hint ++ [.drop]
    return value ++ target ++ (if isEvaluated then keep else [])
  | .forIn isAsync t i b o => do
    let target ← storing c t
    let source ← iterable c i
    let body ← stmts c b
    let orelse ← stmts c o
    if isAsync then noteAwait
    return source ++ [iteratorOf isAsync,
      if isAsync then .forEachAsync (target ++ body) orelse else .forEach (target ++ body) orelse]
  | .whileTrue e b o => return [.whileTrue (← tree c true e) (← stmts c b) (← stmts c o)]
  | .ifTrue e b o => return (← tree c true e) ++ [.branch (← stmts c b) (← stmts c o)]
  | .withItems isAsync is b => do
    let contexts ← contexts c is
    let body ← stmts c b
    if isAsync then noteAwait
    return inContexts isAsync body contexts
  | .matchOn e cs => return (← tree c false e) ++ (← cases c cs)
  | .raise none _ => return [.reraise]
  | .raise (some e) none => return (← tree c false e) ++ [.raise false]
  | .raise (some e) (some cause) =>
    return (← tree c false e) ++ (← tree c false cause) ++ [.raise true]
  | .tryBlock b hs o f grouped => do
    let body ← stmts c b
    let orelse ← stmts c o
    let handlers ← handlers c grouped hs
    let final ← stmts c f
    let attempt : Code :=
      if hs.isEmpty then body ++ orelse
      else [if grouped then .attemptGroup body handlers orelse else .attempt body handlers orelse]
    return if f.isEmpty then attempt else [.attemptFinally attempt final]
  | .assert e m => do
    let test ← tree c true e
    let failure ← match m with
      | some m => do
        let message ← tree c false m
        pure (message ++ [.call [.plain]])
      | none => pure []
    return test ++
      [.branch [] (.const (.exceptionType "AssertionError") :: failure ++ [.raise false])]
  | .importModules is => return is.flatMap (importModule c)
  | .importFrom level path is =>
    let module := mangleModule c path
    if is.any (·.path == ["*"]) then return [.importModule module level (some ["*"]), .importStar]
    else
      return .importModule module level (some (is.map fun i => i.path.headD "")) ::
        importNames c is
  | .expr (.mk _ (.const _)) => return []
  | .expr e => return (← tree c false e) ++ [.drop]
  | .break => return [.leave]
  | .continue => return [.again]
  | .global _ | .nonlocal _ | .pass => return []

def stmts (c : Standing) : List Stmt → Compiling Code
  | [] => return []
  | s :: ss => return (← stmt c s) ++ (← stmts c ss)

/-- Code that takes the topmost value into all targets. -/
def targets (c : Standing) : List Tree → Compiling Code
  | [] => return [.drop]
  | [t] => storing c t
  | t :: ts => return .duplicate :: (← storing c t) ++ (← targets c ts)

/-- Code that tries the handlers in turn. -/
def handlers (c : Standing) (grouped : Bool) : List Handler → Compiling Code
  | [] => return [if grouped then .finishGroup else .passOn]
  | .mk type name body _ :: hs => do
    let test ← type.mapM (tree c false)
    let code ← stmts c body
    let rest ← handlers c grouped hs
    return handling grouped test (handlingAs c name code) rest

/-- Code that runs the first case that the topmost value fits. -/
def cases (c : Standing) : List Case → Compiling Code
  | [] => return [.drop]
  | .mk p guard? body :: cs => do
    let fits ← pattern c p
    let bound := (patternNames p).eraseDups.flatMap fun n => [.loadCapture n, c.store n]
    let guard ← match guard? with
      | some g => do
        let test ← tree c true g
        pure (test ++ [.require])
      | none => pure []
    let code ← stmts c body
    let rest ← cases c cs
    return [.choose (.duplicate :: fits ++ bound ++ guard ++ [.const (.bool true)])
      [.const (.bool false)], .branch (.drop :: code) rest]

end

/-! ### Whole texts -/

/-- Code for the statements of a file. -/
def file (isStored : Bool) (body : List Stmt) : Code :=
  let lazyHints := Syntax.Future.asksForLazyHints body
  let scope := scopeOf lazyHints (Syntax.Mention.stmts body)
  let c : Standing := { scope := scope, lazyHints := lazyHints, isStored := isStored }
  preamble c body ++ (inside scope false (stmts c body)).1

/-- Code that returns the value of an expression over the names of a file. -/
def call (e : Tree) : Code :=
  let scope := scopeOf false (Syntax.Mention.tree e)
  (inside scope false (tree { scope := scope } false e)).1 ++ [.ret]

end Exemplar.Machine.Compile
