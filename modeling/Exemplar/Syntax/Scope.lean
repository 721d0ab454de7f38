import Exemplar.Syntax.Scope.Capture
import Exemplar.Syntax.Scope.Mention
import Exemplar.Syntax.Scope.Names

/-
  A text as the sites where something stands that only some places allow, in the order in which the
  parts are evaluated. Scopes and blocks hold the sites inside them. What a `finally` has to do is
  kept with its block, for a jump out of the block does it on its way.

  The rules about places: what may stand only in a function, in an asynchronous function or in a
  loop. Sites are looked at in their order, under the frame and the blocks around them. A jump
  leaves blocks from the innermost outward; what a block has to do in the end is looked at again
  there, under the blocks that are left.

  The rules that a text of correct grammar has to keep besides: those about features of the future
  come first, then those about names in the whole text, then those about places.
-/

namespace Exemplar.Syntax

/-- The three ways out of a block before its end. -/
inductive Jump
  | ret | break | continue
  deriving DecidableEq

mutual

inductive Site
  | scope (f : Frame) (line : Nat) (sites : List Site)
  | block (b : Block) (line : Int) (sites : List Site)
  /-- The hint of a variable, which functions do not evaluate. -/
  | hint (sites : List Site)
  | asyncClause
  | await (line : Nat)
  | yield (line : Nat)
  | yieldFrom (line : Nat)
  /-- A result is about to be returned, with a value or without. -/
  | result (line : Nat) (valued : Bool)
  /-- A jump happens, and a value that is computed goes along or not. -/
  | jump (j : Jump) (line : Nat) (carries : Bool)
  /-- A statement that only an asynchronous function may hold. -/
  | asyncOnly (word : String) (line : Nat)
  | future (line : Nat)
  /-- Something that no place allows. -/
  | fault (f : SyntaxFault)

/-- A stretch of statements that a jump may have to leave. -/
inductive Block
  | loop
  /-- A block with something to release at its end. -/
  | managed
  | guarded
  | groupHandler
  | final (sites : List Site)

end

namespace Site

/-- The line of steps that no line of the text stands for. -/
def noLine : Int := -1

/-- A fault that stands in the row if a condition holds. -/
def faultIf (b : Bool) (line : Nat) (message : String) : List Site :=
  if b then [.fault ⟨message, line, .general⟩] else []

/-- Refuses to bind the name that stands for a constant. -/
def bindable (name : String) (line : Nat) : List Site :=
  faultIf (name == debugName) line "cannot assign to __debug__"

/-- Refuses a name that is passed twice, on the line of the second. -/
def repeatedKeywords (line : Nat) : List TreeKeyword → List Site
  | [] => []
  | .mk none _ _ :: ks => repeatedKeywords line ks
  | .mk (some n) _ _ :: ks =>
    bindable n line ++
      match ks.find? (·.name == some n) with
      | some k => faultIf true k.line ("keyword argument repeated: " ++ n)
      | none => repeatedKeywords line ks

/-- Refuses parameters with the name that stands for a constant. -/
def parameterFaults (line : Nat) (ps : List TreeParameter) : List Site :=
  ps.flatMap fun p => bindable p.name line

/-- The most targets that may stand before a star. -/
def maxBeforeStar : Nat := 255

def isStarred : Tree → Bool
  | .mk _ (.starred _) => true
  | _ => false

/-- Refuses a second star among targets, and a star behind too many targets. -/
def starFaults (line : Nat) (es : List Tree) : List Site :=
  faultIf (es.any isStarred && maxBeforeStar < (es.takeWhile (!isStarred ·)).length) line
      "too many expressions in star-unpacking assignment" ++
    faultIf (2 ≤ es.countP isStarred) line "multiple starred expressions in assignment"

mutual

def tree : Tree → List Site
  | .mk l f => form l f

/-- The sites in an expression on a line. -/
def form (l : Nat) : Form → List Site
  | .const _ | .name _ => []
  | .attribute v _ => tree v
  | .subscript v i => tree v ++ tree i
  | .call f as ks => repeatedKeywords l ks ++ tree f ++ items as ++ keywords ks
  | .unary _ e => tree e
  | .binary a _ b => tree a ++ tree b
  | .bool _ es => trees es
  | .compare e rest => tree e ++ comparisons rest
  | .conditional t a b => tree t ++ tree a ++ tree b
  | .lambda ps body =>
    parameterFaults l ps ++ defaults false ps ++ defaults true ps ++ [.scope .lambda l (tree body)]
  | .list es | .tuple es | .set es => items es
  | .dict es => entries es
  | .listComp e cs => comprehension .list l (tree e) cs
  | .setComp e cs => comprehension .set l (tree e) cs
  | .generator e cs => comprehension .generator l (tree e) cs
  | .dictComp k v cs => comprehension .dict l (tree k ++ tree v) cs
  | .await e => .await l :: tree e
  | .yield e => .yield l :: option e
  | .yieldFrom e => .yieldFrom l :: tree e
  | .named n e => tree e ++ bindable n l
  | .starred _ => faultIf true l "can't use starred expression here"
  | .slice a b s => option a ++ option b ++ option s
  | .joined es => trees es
  | .formatted e _ spec => tree e ++ option spec

def trees : List Tree → List Site
  | [] => []
  | e :: es => tree e ++ trees es

/-- The sites of expressions that may be spread. -/
def items : List Tree → List Site
  | [] => []
  | e :: es => spread e ++ items es

def spread : Tree → List Site
  | .mk l f => match f with
    | .starred e => tree e
    | f => form l f

def option : Option Tree → List Site
  | none => []
  | some e => tree e

def comparisons : List (CompareOp × Tree) → List Site
  | [] => []
  | (_, e) :: r => tree e ++ comparisons r

def entries : List (Option Tree × Tree) → List Site
  | [] => []
  | (k, v) :: r => option k ++ tree v ++ entries r

def keywords : List TreeKeyword → List Site
  | [] => []
  | .mk _ v _ :: r => tree v ++ keywords r

/-- The defaults of parameters, of those that are passed by name only or of the others. -/
def defaults (keywordOnly : Bool) : List TreeParameter → List Site
  | [] => []
  | .mk kind _ _ d _ :: ps =>
    (if (kind == .keywordOnly) == keywordOnly then option d else []) ++ defaults keywordOnly ps

/-- A comprehension: its scope is made first, and the first iterator of the scope around is
evaluated when it is called. -/
def comprehension (c : Comprehension) (l : Nat) (element : List Site) : List TreeClause → List Site
  | [] => []
  | .mk isAsync t i conditions :: cs =>
    .scope (.comprehension c) l
      (clause isAsync l (target t ++ trees conditions ++ clauses l element cs)) :: tree i

/-- The clauses that follow the first, and the element. -/
def clauses (l : Nat) (element : List Site) : List TreeClause → List Site
  | [] => element
  | .mk isAsync t i conditions :: cs =>
    tree i ++ clause isAsync l (target t ++ trees conditions ++ clauses l element cs)

/-- An asynchronous clause is a block of its own. -/
def clause (isAsync : Bool) (l : Nat) (inner : List Site) : List Site :=
  if isAsync then [.asyncClause, .block .guarded l inner] else inner

/-- The sites of assigning to a target. -/
def target : Tree → List Site
  | .mk l f => targetForm l f

def targetForm (l : Nat) : Form → List Site
  | .name n => bindable n l
  | .attribute v a => tree v ++ bindable a l
  | .tuple es | .list es => starFaults l es ++ targetItems es
  | .starred _ => faultIf true l "starred assignment target must be in a list or tuple"
  | .subscript v i => tree v ++ tree i
  | _ => []

def targetItems : List Tree → List Site
  | [] => []
  | e :: es => spreadTarget e ++ targetItems es

/-- A target among others, which may take what is left. -/
def spreadTarget : Tree → List Site
  | .mk l f => match f with
    | .starred e => target e
    | f => targetForm l f

end

mutual

/-- The sites of deleting a target. -/
def delete : Tree → List Site
  | .mk l f => match f with
    | .name n => faultIf (n == debugName) l "cannot delete __debug__"
    | .attribute v _ => tree v
    | .subscript v i => tree v ++ tree i
    | .tuple es | .list es => deleteAll es
    | _ => []

def deleteAll : List Tree → List Site
  | [] => []
  | e :: es => delete e ++ deleteAll es

end

/-- The target of an operation in place: what it reads, and what it may not bind. -/
def updated : Tree → List Site × List Site
  | .mk l f => match f with
    | .name n => ([], bindable n l)
    | .attribute v _ => (tree v, [])
    | .subscript v i => (tree v ++ tree i, [])
    | _ => ([], [])

/-- A target with a hint: what it evaluates if no value is assigned, and what may not be bound. -/
def hintedTarget (l : Nat) (assigned : Bool) : Tree → List Site
  | .mk _ f => match f with
    | .name n => bindable n l
    | .attribute v a => bindable a l ++ (if assigned then [] else tree v)
    | .subscript v i => if assigned then [] else tree v ++ tree i
    | _ => []

/-- The hints of parameters in the order in which they are evaluated, and that of the result. -/
def hints (ps : List TreeParameter) (returns : Option Tree) : List Site :=
  let kinds : List ParameterKind :=
    [.ordinary, .positionalOnly, .variadic, .keywordOnly, .keywordVariadic]
  let own := kinds.flatMap fun k => (ps.filter (·.kind == k)).flatMap fun p =>
    (p.hint.map spread).getD []
  own ++ option returns

/-- The pattern of a case; `last` tells that it may match anything. -/
def casePattern (last : Bool) (p : Pattern) : List Site :=
  match Capture.pattern last [] p with
  | .ok _ => []
  | .error f => [.fault f]

/-- The sites of what is bound by imports. -/
def imported (l : Nat) (is : List Import) : List Site :=
  is.flatMap fun i => bindable (i.alias?.getD (i.path.headD "")) l

/-- The sites of the items of a `with` around its body. -/
def managed (l : Nat) (body : List Site) : List (Tree × Option Tree) → List Site
  | [] => body
  | (e, t) :: is =>
    tree e ++ [.block .managed l ((t.map target).getD [] ++ managed l body is)]

def isConstant : Option Tree → Bool
  | none => true
  | some (.mk _ (.const _)) => true
  | _ => false

/-- A body with what has to be done in the end, which is done also after a jump or an exception. -/
def guardedBy (l : Nat) (body final : List Site) : List Site :=
  .block (.final final) l body :: final ++ [.block .guarded noLine final]

mutual

/-- The sites of a statement; lazy hints are not evaluated anywhere. -/
def stmt (lazyHints : Bool) : Stmt → List Site
  | .mk a start _ => action lazyHints start.line a

/-- The sites of an action that starts on a line. -/
def action (lazyHints : Bool) (l : Nat) : Action → List Site
  | .function isAsync name ps returns ds body =>
    parameterFaults l ps ++ trees ds ++ defaults false ps ++ defaults true ps ++
      (if lazyHints then [] else hints ps returns) ++
      .scope (.function isAsync) l (stmts lazyHints body) :: bindable name l
  | .classDef name bs ks ds body =>
    trees ds ++ .scope .classBody l (stmts lazyHints body) :: repeatedKeywords l ks ++ items bs ++
      keywords ks ++ bindable name l
  | .ret v => .result l v.isSome :: option v ++ [.jump .ret l (!isConstant v)]
  | .delete ts => deleteAll ts
  | .assign ts v => tree v ++ ts.flatMap target
  | .augAssign t _ v => (updated t).1 ++ tree v ++ (updated t).2
  | .annAssign t h v _ =>
    (match v with
      | some v => tree v ++ target t
      | none => []) ++ hintedTarget l v.isSome t ++
      (if lazyHints then [] else [.hint (tree h)])
  | .forIn isAsync t i b o =>
    if isAsync then
      .asyncOnly "for" l :: tree i ++ .block .loop l (target t ++ stmts lazyHints b) ::
        stmts lazyHints o
    else .block .loop l (tree i ++ target t ++ stmts lazyHints b) :: stmts lazyHints o
  | .whileTrue e b o => .block .loop l (tree e ++ stmts lazyHints b) :: stmts lazyHints o
  | .ifTrue e b o => tree e ++ stmts lazyHints b ++ stmts lazyHints o
  | .withItems isAsync is b =>
    (if isAsync then [.asyncOnly "with" l] else []) ++ managed l (stmts lazyHints b) is
  | .matchOn e cs => tree e ++ cases lazyHints cs
  | .raise e c => option e ++ option c
  | .tryBlock b hs o f grouped =>
    let body := stmts lazyHints b
    let inner :=
      if hs.isEmpty then body
      else
        let orelse := stmts lazyHints o
        let caught (b : Block) := Site.block b noLine (handlers lazyHints grouped hs)
        .block .guarded l body ::
          if grouped then caught .groupHandler :: orelse else orelse ++ [caught .guarded]
    if f.isEmpty then inner else guardedBy l inner (stmts lazyHints f)
  | .assert e m => tree e ++ option m
  | .importModules is => imported l is
  | .importFrom _ path is =>
    (if path == ["__future__"] then [.future l] else []) ++ imported l is
  | .global _ | .nonlocal _ | .pass => []
  | .expr e => tree e
  | .break => [.jump .break l false]
  | .continue => [.jump .continue l false]

def stmts (lazyHints : Bool) : List Stmt → List Site
  | [] => []
  | s :: ss => stmt lazyHints s ++ stmts lazyHints ss

def handlers (lazyHints grouped : Bool) : List Handler → List Site
  | [] => []
  | .mk type name body l :: hs =>
    faultIf (!grouped && type.isNone && !hs.isEmpty) l "default 'except:' must be last" ++
      option type ++ (name.map (bindable · l)).getD [] ++
      .block .guarded l (stmts lazyHints body) :: handlers lazyHints grouped hs

def cases (lazyHints : Bool) : List Case → List Site
  | [] => []
  | .mk p guard? body :: cs =>
    casePattern (guard?.isSome || cs.isEmpty) p ++ option guard? ++ stmts lazyHints body ++
      cases lazyHints cs

end

mutual

/-- Whether a site yields in the scope that it belongs to. -/
def yields : Site → Bool
  | .yield _ | .yieldFrom _ => true
  | .block _ _ ss | .hint ss => anyYields ss
  | _ => false

def anyYields : List Site → Bool
  | [] => false
  | s :: ss => yields s || anyYields ss

end

mutual

/-- Whether a site waits for something in the scope that it belongs to. A comprehension that waits
makes the scope around it wait, unless it is a generator. -/
def awaits : Site → Bool
  | .await _ | .asyncClause => true
  | .block _ _ ss | .hint ss => anyAwaits ss
  | .scope (.comprehension c) _ ss => c != .generator && anyAwaits ss
  | _ => false

def anyAwaits : List Site → Bool
  | [] => false
  | s :: ss => awaits s || anyAwaits ss

end

end Site

end Exemplar.Syntax

namespace Exemplar.Syntax.Placement

/-- How many blocks may be open in a frame. -/
def maxBlocks : Nat := 20

/-- What is around a site. -/
structure Around where
  frame : Frame := .file
  /-- Whether the frame yields somewhere. -/
  generates : Bool := false
  blocks : List Block := []
  /-- The line up to which features of the future may be asked for. -/
  future : Option Nat

/-- Whether a frame may wait for something. -/
def mayAwait : Frame → Bool
  | .function isAsync => isAsync
  | .comprehension _ => true
  | _ => false

/-- Opens a block. -/
def Around.open (a : Around) (b : Block) (line : Int) : Except SyntaxFault Around :=
  if maxBlocks ≤ a.blocks.length then refuse line "too many statically nested blocks"
  else .ok { a with blocks := b :: a.blocks }

/-- A way to look at sites. -/
abbrev Look := Around → List Site → Except SyntaxFault Unit

/-- Leaves blocks for a jump: the line that is reached, and whether a loop stopped it. After what
blocks do in the end there is no line. -/
def leave (again : Look) (a : Around) (j : Jump) (carries : Bool) (line : Int) :
    List Block → Except SyntaxFault (Int × Bool)
  | [] => .ok (line, false)
  | .groupHandler :: _ =>
    refuse line "'break', 'continue' and 'return' cannot appear in an except* block"
  | .loop :: r => if j == .ret then leave again a j carries line r else .ok (line, true)
  | .managed :: r => leave again a j carries Site.noLine r
  | .guarded :: r => leave again a j carries line r
  | .final sites :: r => do
    let a := { a with blocks := r }
    again (← if carries then a.open .guarded line else .ok a) sites
    leave again a j carries Site.noLine r

/-- Refuses what stands where it may not, other than scopes and blocks. -/
def place (again : Look) (a : Around) : Site → Except SyntaxFault Unit
  | .await l =>
    if !a.frame.isFunction then refuse l "'await' outside function"
    else if !mayAwait a.frame then refuse l "'await' outside async function"
    else .ok ()
  | .yield l => if a.frame.isFunction then .ok () else refuse l "'yield' outside function"
  | .yieldFrom l =>
    if !a.frame.isFunction then refuse l "'yield' outside function"
    else if a.frame == .function true then refuse l "'yield from' inside async function"
    else .ok ()
  | .result l valued =>
    if !a.frame.isFunction then refuse l "'return' outside function"
    else if valued && a.frame == .function true && a.generates then
      refuse l "'return' with value in async generator"
    else .ok ()
  | .jump j l carries => do
    let (line, stopped) ← leave again a j carries l a.blocks
    match j with
    | .break => if stopped then return () else refuse line "'break' outside loop"
    | .continue => if stopped then return () else refuse line "'continue' not properly in loop"
    | .ret => return ()
  | .asyncOnly word l =>
    if a.frame == .function true then .ok ()
    else refuse l ("'async " ++ word ++ "' outside async function")
  | .future l =>
    if a.future.any (l ≤ ·) then .ok ()
    else refuse l "from __future__ imports must occur at the beginning of the file"
  | .fault f => .error f
  | _ => .ok ()

/-- Whether the hints of variables are evaluated in a frame. -/
def evaluatesHints : Frame → Bool
  | .file | .classBody => true
  | _ => false

mutual

def site (again : Look) (a : Around) : Site → Except SyntaxFault Unit
  | .scope f l ss =>
    match f with
    | .comprehension c =>
      if c != .generator && Site.anyAwaits ss && !mayAwait a.frame then
        refuse l "asynchronous comprehension outside of an asynchronous function"
      else sites again { frame := f, future := a.future } ss
    | _ => sites again { frame := f, generates := Site.anyYields ss, future := a.future } ss
  | .block b l ss => do sites again (← a.open b l) ss
  | .hint ss => if evaluatesHints a.frame then sites again a ss else .ok ()
  | .asyncClause => .ok ()
  | .await l => place again a (.await l)
  | .yield l => place again a (.yield l)
  | .yieldFrom l => place again a (.yieldFrom l)
  | .result l v => place again a (.result l v)
  | .jump j l c => place again a (.jump j l c)
  | .asyncOnly w l => place again a (.asyncOnly w l)
  | .future l => place again a (.future l)
  | .fault f => .error f

def sites (again : Look) (a : Around) : List Site → Except SyntaxFault Unit
  | [] => .ok ()
  | s :: ss => do
    site again a s
    sites again a ss

end

/-- Looks at sites; what is done in the end is looked at again to a depth. -/
def look : Nat → Look
  | 0 => fun _ _ => .ok ()
  | depth + 1 => sites (look depth)

/-- How deep statements can lie inside each other. -/
def maxDepth : Nat := 100

/-- Refuses sites that stand where they may not. -/
def checkSites (future : Option Nat) (ss : List Site) : Except SyntaxFault Unit :=
  look (maxDepth + maxBlocks) { future := future } ss

end Exemplar.Syntax.Placement

namespace Exemplar.Syntax

/-- The first fault of an outcome. -/
def faultOf? : Except SyntaxFault Unit → Option SyntaxFault
  | .ok _ => none
  | .error f => some f

/-- The rule that the statements of a file break first. -/
def scopeFault? (body : List Stmt) : Option SyntaxFault :=
  faultOf? do
    let future ← Future.lastLine {} body
    let lazyHints := Future.asksForLazyHints body
    Names.checkMentions lazyHints (Mention.stmts body)
    Placement.checkSites future (Site.stmts lazyHints body)

/-- The rule that an expression by itself breaks first. -/
def scopeFaultOfTree? (e : Tree) : Option SyntaxFault :=
  faultOf? do
    Names.checkMentions false (Mention.tree e)
    Placement.checkSites none (Site.tree e)

end Exemplar.Syntax
