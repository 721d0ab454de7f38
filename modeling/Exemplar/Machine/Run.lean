import Exemplar.Machine.Await
import Exemplar.Machine.Declare
import Exemplar.Machine.Match
import Exemplar.Machine.Raise

/-
  Carrying out one instruction on the stack of its frame. What the instruction comes to is the frame
  behind it, or a signal that leaves the block that it stands in.

  Running code. An instruction works on the stack of its frame; what leaves a block before its end
  is passed from block to block until one of them stops it. The machine calls itself only through
  an engine of less depth, and every turn of its loop uses up a step.
-/

namespace Exemplar.Machine.Run

/-- What an instruction comes to. -/
inductive Next
  | go (frame : Frame)
  | signal (s : Signal) (frame : Frame)
  | yielded (v : Value) (frame : Frame)
  /-- What the frame waits for yields a value. -/
  | awaiting (v : Value) (frame : Frame)

/-- Takes values off a stack, the last one pushed coming last. -/
def popped (n : Nat) (stack : List Value) : List Value × List Value :=
  ((stack.take n).reverse, stack.drop n)

/-- Keys and values in turn. -/
def pairs : List Value → List (Value × Value)
  | k :: v :: r => (k, v) :: pairs r
  | _ => []

/-- Enters a block of code. -/
def enter (f : Frame) (kind : BlockKind) (stack : List Value) (code : Code) : Frame :=
  { f with code := code, blocks := ⟨kind, stack, f.code⟩ :: f.blocks }

/-- Enters the arm of a branch. -/
def enterArm (f : Frame) (stack : List Value) (code : Code) : Frame :=
  match code with
  | [] => { f with stack := stack }
  | code => { enter f .arm [] code with stack := stack }

/-- Begins to handle an exception. -/
def hold (x : Value) : Exec Unit := modify fun s => { s with handled := x :: s.handled }

/-- Ends the handling of an exception. -/
def release : Exec Unit := modify fun s => { s with handled := s.handled.drop 1 }

/-! ### Values -/

/-- A comparison of two values by any sign. -/
def compare (e : Engine) (op : CompareOp) (a b : Value) : Exec Value := do
  match op with
  | .is => pure (.bool (a.same b))
  | .isNot => pure (.bool !(a.same b))
  | .isIn => return .bool (← Item.contains e b a)
  | .notIn => return .bool !(← Item.contains e b a)
  | op => e.compare op a b

/-- Makes a set of values that are known. -/
def fixedSet (e : Engine) (frozen : Bool) (items : List Value) : Exec Value := do
  let m ← Bag.ofValues e items
  if frozen then Exec.new .frozenset (.set m)
  else Exec.new .set (.set (← Bag.copy e m))

/-- Calls a value, which may be a function that looks at the frame. -/
def call (e : Engine) (f : Frame) (callee : Value) (args : List Value) (named : Fields) :
    Exec Value :=
  match args, named, Declare.ofFrame? e f callee with
  | [], [], some m => m
  | args, named, _ => e.call callee args named

/-- The iterator that a generator hands over to. -/
def handedTo (e : Engine) (v : Value) : Exec Value := do
  match ← Generator.of? v with
  | some (_, g) =>
    match g.manner with
    | .coroutine =>
      Exec.typeError
        "cannot 'yield from' a coroutine object in a non-coroutine generator"
    | .asyncGenerator => Iterate.iter e v
    | _ => pure v
  | none => Iterate.iter e v

/-! ### Contexts -/

/-- A method of a context with the context, if its type declares it. -/
def contextMethod? (e : Engine) (v : Value) (name : String) : Exec (Option Value) := do
  match ← Typing.special? v name with
  | some attr => some <$> (do Typing.bind e attr v (← Typing.of v))
  | none => pure none

/-- Enters a context: its end, and what entering it gives. -/
def enterContext (e : Engine) (isAsync : Bool) (v : Value) : Exec (Value × Value) := do
  let kind := if isAsync then "asynchronous context manager" else "context manager"
  let mark := if isAsync then "__a" else "__"
  let refuse (missed : String) : Exec (Value × Value) := do
    Exec.typeError ("'" ++ (← Typing.word v) ++ "' object does not support the " ++ kind ++
      " protocol" ++ missed)
  match ← contextMethod? e v (mark ++ "enter__") with
  | none => refuse ""
  | some start =>
    match ← contextMethod? e v (mark ++ "exit__") with
    | none => refuse (" (missed " ++ mark ++ "exit__ method)")
    | some exit => return (exit, ← e.call start [] [])

/-- What the end of a context is told about an exception. -/
def exitArguments (x : Value) : Exec (List Value) := do
  let trace := ((← Exec.incident? x).map (·.trace)).getD .none
  return [← Typing.of x, x, trace]

/-! ### Blocks that instructions look at -/

/-- The loop that a failed test leaves as exhausted. -/
def leaveLoop (f : Frame) (stack : List Value) : Frame :=
  match f.blocks with
  | ⟨.loop _ _ orelse, _, rest⟩ :: blocks =>
    { f with code := orelse ++ rest, stack := stack, blocks := blocks }
  | _ => { f with stack := stack }

/-- The frame in which the exception that is being passed on is stopped. -/
def stopPassing (f : Frame) (stack : List Value) : Frame :=
  match f.blocks with
  | ⟨.pending _, s, rest⟩ :: blocks =>
    { f with stack := stack, blocks := ⟨.pending none, s, rest⟩ :: blocks }
  | _ => { f with stack := stack }

/-- The frame in which an asynchronous loop has got its next item. -/
def startTurn (f : Frame) (body : Code) : Frame :=
  match f.blocks with
  | ⟨.eachAsync it _ b orelse, s, rest⟩ :: blocks =>
    { f with code := body, blocks := ⟨.eachAsync it false b orelse, s, rest⟩ :: blocks }
  | _ => f

/-- Takes the exceptions of classes out of what is left of a group. -/
def splitGroup (e : Engine) (f : Frame) (t : Value) (stack : List Value) : Exec Frame := do
  match f.blocks with
  | ⟨.sorting whole rest raised, s, code⟩ :: blocks =>
    let (taken, left) ← Raise.split e rest t
    pure { f with
      stack := taken :: stack
      blocks := ⟨.sorting whole left raised, s, code⟩ :: blocks }
  | _ => pure f

/-- Ends the handlers of a group. -/
def finishGroup (e : Engine) (f : Frame) : Exec Next := do
  match f.blocks with
  | ⟨.sorting whole rest raised, stack, code⟩ :: blocks =>
    let outcome ← Raise.outcome e whole rest raised
    release
    let f := { f with code := code, stack := stack, blocks := blocks }
    match outcome with
    | none => pure (.go f)
    | some x => pure (.signal (.raised x) f)
  | _ => pure (.go f)

/-! ### Instructions -/

/-- Carries out an instruction; `f` has the code behind it. -/
def step (e : Engine) (i : Instr) (f : Frame) : Exec Next := do
  let put (stack : List Value) : Exec Next := pure (.go { f with stack := stack })
  let fitting (parts : Option (List Value)) (stack : List Value) : Exec Next :=
    match parts with
    | some items => put (items ++ stack)
    | none => pure (.signal .mismatch f)
  match i, f.stack with
  | .const v, s => put (v :: s)
  | .drop, _ :: s => put s
  | .duplicate, v :: s => put (v :: v :: s)
  | .duplicatePair, a :: b :: s => put (a :: b :: a :: b :: s)
  | .swap, a :: b :: s => put (b :: a :: s)
  | .sink, a :: b :: c :: s => put (b :: c :: a :: s)
  | .load p n, s => put ((← Variable.load e f p n) :: s)
  | .store p n, v :: s => return .go { ← Variable.store e f p n v with stack := s }
  | .delete p n, _ => return .go (← Variable.delete e f p n)
  | .loadAttr n, v :: s => put ((← Attribute.get e v n) :: s)
  | .storeAttr n, v :: w :: s =>
    Attribute.put e v n w
    put s
  | .deleteAttr n, v :: s =>
    Attribute.erase e v n
    put s
  | .loadItem, k :: c :: s => put ((← Item.get e c k) :: s)
  | .storeItem, k :: c :: v :: s =>
    Item.put e c k v
    put s
  | .deleteItem, k :: c :: s =>
    Item.erase e c k
    put s
  | .makeTuple n, s =>
    let (items, s) := popped n s
    put (.tuple items :: s)
  | .makeList n, s =>
    let (items, s) := popped n s
    put ((← Exec.new .list (.list items.toArray)) :: s)
  | .makeSet n, s =>
    let (items, s) := popped n s
    put ((← Exec.new .set (.set (← Bag.ofValues e items))) :: s)
  | .makeDict n, s =>
    let (items, s) := popped (2 * n) s
    put ((← Mapping.ofPairs e (pairs items)) :: s)
  | .makeFixedSet frozen items, s => put ((← fixedSet e frozen items) :: s)
  | .makeSlice, c :: b :: a :: s => put (.slice a b c :: s)
  | .add, v :: .object a :: s =>
    Spread.addItem e a v
    put (.object a :: s)
  | .addEntry, v :: k :: .object a :: s =>
    Mapping.put e a k v
    put (.object a :: s)
  | .addAll, v :: .object a :: s =>
    Spread.addAll e a v
    put (.object a :: s)
  | .addNamed, v :: .object a :: args :: callee :: s =>
    Spread.addNamed e callee a v
    put (.object a :: args :: callee :: s)
  | .listToTuple, v :: s => put (.tuple (← Iterate.collect e v) :: s)
  | .unpack n none, v :: s => put ((← Iterate.unpack e v n) ++ s)
  | .unpack n (some m), v :: s => put ((← Iterate.unpackAround e v n m) ++ s)
  | .unary op, v :: s => put ((← Operate.unary e op v) :: s)
  | .binary op, b :: a :: s => put ((← Operate.binary e op a b) :: s)
  | .update op, b :: a :: s => put ((← Operate.update e op a b) :: s)
  | .compare op, b :: a :: s => put ((← compare e op a b) :: s)
  | .chain op rest, b :: a :: s =>
    let r ← compare e op a b
    if ← Measure.truth e r then pure (.go (enterArm f (b :: s) rest)) else put (r :: s)
  | .branch yes no, v :: s =>
    pure (.go (enterArm f s (if ← Measure.truth e v then yes else no)))
  | .unless t rest, v :: s =>
    if (← Measure.truth e v) == t then put (v :: s) else pure (.go (enterArm f s rest))
  | .call passings, s =>
    let (values, s) := popped passings.length s
    let (args, named) := Spread.parted passings values
    match s with
    | callee :: s => put ((← call e f callee args named) :: s)
    | [] => put s
  | .callSpread true, d :: args :: callee :: s =>
    let places ← Spread.places e callee args
    put ((← call e f callee places (← Spread.names d)) :: s)
  | .callSpread false, args :: callee :: s =>
    put ((← call e f callee (← Spread.places e callee args) []) :: s)
  | .makeFunction code defaults keywordDefaults hints captured, s =>
    let (values, s) := popped (defaults + keywordDefaults.length + hints.length) s
    put ((← Declare.function f code defaults keywordDefaults hints captured values) :: s)
  | .makeClass name body captured passings, s =>
    let (values, s) := popped passings.length s
    let (bases, named) := Spread.parted passings values
    put ((← Declare.classOf e f name body captured bases named) :: s)
  | .makeClassSpread name body captured true, d :: bases :: maker :: s =>
    let bases ← Spread.places e maker bases
    put ((← Declare.classOf e f name body captured bases (← Spread.names d)) :: s)
  | .makeClassSpread name body captured false, bases :: maker :: s =>
    let bases ← Spread.places e maker bases
    put ((← Declare.classOf e f name body captured bases []) :: s)
  | .format conversion true, spec :: v :: s =>
    let spec ← Show.plain e spec
    put (.str (← Format.converted e v conversion spec) :: s)
  | .format conversion false, v :: s =>
    put (.str (← Format.converted e v conversion "") :: s)
  | .join n, s =>
    let (items, s) := popped n s
    put (.str (String.join (items.filterMap Value.str?)) :: s)
  | .getIter, v :: s => put ((← Iterate.iter e v) :: s)
  | .getAsyncIter, v :: s => put ((← Await.iterate e v) :: s)
  | .nextAwaitable, it :: s => put ((← Await.next e it) :: s)
  | .getAwaitable giver, v :: s => put ((← Await.iterator e giver v) :: s)
  | .getYieldFrom, v :: s => put ((← handedTo e v) :: s)
  | .forEach body orelse, it :: s =>
    pure (.go { enter f (.each it body orelse) s [] with stack := s })
  | .forEachAsync body orelse, it :: s =>
    pure (.go { enter f (.eachAsync it false body orelse) s [] with stack := s })
  | .asyncBody body, _ => pure (.go (startTurn f body))
  | .whileTrue test body orelse, s =>
    let turn := test ++ [.loopTest body]
    pure (.go (enter f (.loop turn body orelse) s turn))
  | .loopTest body, v :: s =>
    if ← Measure.truth e v then pure (.go { f with code := body, stack := s })
    else pure (.go (leaveLoop f s))
  | .attempt body handlers orelse, s => pure (.go (enter f (.attempt handlers orelse) s body))
  | .attemptFinally body final, s => pure (.go (enter f (.final final) s body))
  | .attemptGroup body handlers orelse, s =>
    pure (.go (enter f (.group handlers orelse) s body))
  | .splitGroup, t :: s => return .go (← splitGroup e f t s)
  | .handleGroup body, v :: s =>
    if v.isNone then put s
    else
      hold v
      pure (.go { enter f (.sorted v) s body with stack := s })
  | .finishGroup, _ => finishGroup e f
  | .matchesHandled, t :: s =>
    put (.bool (← Raise.fits ((← get).handled.headD .none) t) :: s)
  | .loadHandled, s => put ((← get).handled.headD .none :: s)
  | .reraise, _ | .passOn, _ => Raise.again
  | .enterContext isAsync, v :: s =>
    let (exit, w) ← enterContext e isAsync v
    put (w :: exit :: s)
  | .using isAsync body, v :: exit :: s =>
    pure (.go { enter f (.using exit isAsync) s body with stack := v :: s })
  | .exitPlain, exit :: s => put ((← e.call exit [.none, .none, .none] []) :: s)
  | .exitRaised, exit :: s =>
    let args ← exitArguments ((← get).handled.headD .none)
    put ((← e.call exit args []) :: s)
  | .settle, v :: s =>
    if ← Measure.truth e v then
      release
      pure (.go (stopPassing f s))
    else put s
  | .raise false, v :: _ => Raise.value e v
  | .raise true, cause :: v :: _ => Raise.withCause e v cause
  | .ret, v :: s => pure (.signal (.ret v) { f with stack := s })
  | .leave, _ => pure (.signal .leave f)
  | .again, _ => pure (.signal .again f)
  | .yield, v :: s => pure (.yielded v { f with stack := s })
  | .yieldFrom, v :: it :: s =>
    match ← Iterate.send e it v with
    | .ok w => pure (.awaiting w { f with code := .yieldFrom :: f.code, stack := it :: s })
    | .error w => put (w :: s)
  | .choose first otherwise, s => pure (.go (enter f (.choice otherwise f.aside) s first))
  | .mismatch, _ => pure (.signal .mismatch f)
  | .require, v :: s =>
    if ← Measure.truth e v then put s else pure (.signal .mismatch f)
  | .capture name, v :: s => pure (.go { f with aside := f.aside.put name v, stack := s })
  | .loadCapture name, s => put (((f.aside.lookup name).getD .none) :: s)
  | .matchSequence before after, v :: s =>
    fitting (← Match.sequence e v before after) s
  | .matchMapping least, v :: _ =>
    if ← Match.mapping e v least then pure (.go f) else pure (.signal .mismatch f)
  | .matchKeys withRest, .tuple keys :: v :: s =>
    match ← Match.valuesOf e v keys with
    | none => pure (.signal .mismatch f)
    | some items =>
      if withRest then put (items ++ (← Match.rest e v keys) :: s) else put (items ++ s)
  | .matchClass positional names, t :: v :: s =>
    fitting (← Match.parts e v t positional names) s
  | .importModule name level names, s =>
    put ((← Declare.module e f name level names) :: s)
  | .importFrom name, m :: s => put ((← Declare.nameOf e m name) :: m :: s)
  | .importStar, m :: s =>
    Declare.importAll e f m
    put s
  | .setupHints, _ =>
    Declare.setupHints e f
    pure (.go f)
  | .storeHint name, v :: s =>
    Declare.storeHint e f name v
    put s
  | _, s => put s

/-! ## Running -/

/-! ### Blocks -/

/-- Code that calls the end of a context, which is on the stack. -/
def exitCode (exit : Instr) (isAsync : Bool) (last : Instr) : Code :=
  exit :: (if isAsync then [.getAwaitable (some "__aexit__"), .const .none, .yieldFrom] else []) ++
    [last]

/-- Goes on behind a block with some code. -/
def leave (b : Block) (f : Frame) (code : Code) : Next :=
  .go { f with code := code ++ b.rest, stack := b.stack }

/-- Goes on inside a block that is there for something else from now on. -/
def stay (b : Block) (kind : BlockKind) (f : Frame) (code : Code) (stack : List Value) : Next :=
  .go { f with code := code, stack := stack, blocks := { b with kind := kind } :: f.blocks }

/-- What follows the end of a block's code; `f` has the blocks around it. -/
def atEnd (e : Engine) (b : Block) (f : Frame) : Exec Next := do
  match b.kind with
  | .arm | .choice _ _ => pure (.go { f with code := b.rest })
  | .loop turn _ _ => pure (stay b b.kind f turn b.stack)
  | .each it body orelse =>
    match ← e.next it with
    | some v => pure (stay b b.kind f body (v :: b.stack))
    | none => pure (leave b f orelse)
  | .eachAsync it _ body orelse =>
    pure (stay b (.eachAsync it true body orelse) f
      [.nextAwaitable, .const .none, .yieldFrom, .asyncBody body] (it :: b.stack))
  | .attempt _ orelse | .group _ orelse => pure (leave b f orelse)
  | .final code => pure (stay b (.pending none) f code b.stack)
  | .pending none => pure (leave b f [])
  | .pending (some s) =>
    if b.held?.isSome then release
    pure (.signal s { f with code := b.rest, stack := b.stack })
  | .handling _ | .sorted _ | .sorting _ _ _ =>
    release
    pure (leave b f [])
  | .using exit isAsync =>
    pure (stay b (.pending none) f (exitCode .exitPlain isAsync .drop) (exit :: b.stack))

/-- Adds what code for a part of a group has raised to what its handlers have raised. -/
def noteRaised (x : Value) (blocks : List Block) : List Block :=
  match blocks with
  | ⟨.sorting whole rest raised, s, code⟩ :: blocks =>
    ⟨.sorting whole rest (raised ++ [x]), s, code⟩ :: blocks
  | blocks => blocks

/-- What a signal comes to at the innermost block; `f` has the blocks around it. -/
def atSignal (e : Engine) (s : Signal) (b : Block) (f : Frame) : Exec Next := do
  match b.kind, s with
  | .loop _ _ _, .leave | .each _ _ _, .leave | .eachAsync _ _ _ _, .leave =>
    pure (leave b f [])
  | .loop _ _ _, .again | .each _ _ _, .again | .eachAsync _ _ _ _, .again => atEnd e b f
  | .eachAsync _ true _ orelse, .raised x =>
    if ← Typing.isError x "StopAsyncIteration" then pure (leave b f orelse)
    else pure (.signal s f)
  | .attempt handlers _, .raised x =>
    hold x
    pure (stay b (.handling x) f handlers b.stack)
  | .group handlers _, .raised x =>
    hold x
    pure (stay b (.sorting x x []) f handlers b.stack)
  | .sorted _, .raised x =>
    release
    pure (leave b { f with blocks := noteRaised x f.blocks } [])
  | .final code, s =>
    if let .raised x := s then hold x
    pure (stay b (.pending (some s)) f code b.stack)
  | .using exit isAsync, .raised x =>
    hold x
    pure (stay b (.pending (some s)) f (exitCode .exitRaised isAsync .settle) (exit :: b.stack))
  | .using exit isAsync, s =>
    pure (stay b (.pending (some s)) f (exitCode .exitPlain isAsync .drop) (exit :: b.stack))
  | .choice otherwise aside, .mismatch =>
    pure (leave b { f with aside := aside } otherwise)
  | _, s =>
    if b.held?.isSome then release
    pure (.signal s f)

/-! ### Frames -/

/-- Carries out an instruction that needs nothing but the frame; otherwise the frame comes back as
it is. -/
def quick (i : Instr) (f : Frame) : Except Frame Frame :=
  match i with
  | .const v => .ok { f with stack := v :: f.stack }
  | .load (.own i) _ =>
    match f.locals.getD i none with
    | some v => .ok { f with stack := v :: f.stack }
    | none => .error f
  | .store (.own i) _ =>
    match f.stack with
    | v :: s => .ok { f with locals := f.locals.setIfInBounds i (some v), stack := s }
    | [] => .error f
  | .branch yes no =>
    match f.stack with
    | .bool b :: s => .ok (enterArm f s (if b then yes else no))
    | _ => .error f
  | _ => .error f

/-- Whether an instruction raises an exception again as it is. -/
def raisesAgain : Instr → Bool
  | .reraise | .passOn => true
  | _ => false

/-- A computation that turns an exception into a signal in the frame. -/
def guarded (f : Frame) (isAgain : Bool) (m : Exec Next) : Exec Next :=
  Exec.catching m fun x => do
    Raise.mark isAgain x
    pure (.signal (.raised x) f)

/-- Runs a frame until it returns or yields; each turn uses up one of the steps. -/
def loop (e : Engine) : Nat → Next → Exec Exit
  | 0, _ => throw .exhausted
  | n + 1, next => do
    Exec.tick
    match next with
    | .yielded v f => pure (.yielded v f)
    | .awaiting v f => pure (.awaiting v f)
    | .go f =>
      match f.code, f.blocks with
      | i :: rest, _ =>
        match quick i { f with code := rest } with
        | .ok f => loop e n (.go f)
        | .error f => loop e n (← guarded f (raisesAgain i) (step e i f))
      | [], [] => pure (.returned .none)
      | [], b :: blocks =>
        let f := { f with blocks := blocks }
        loop e n (← guarded f false (atEnd e b f))
    | .signal s f =>
      match f.blocks, s with
      | b :: blocks, s =>
        let f := { f with blocks := blocks }
        loop e n (← guarded f false (atSignal e s b f))
      | [], .ret v => pure (.returned v)
      | [], .raised x => throw (.raised x)
      | [], _ => pure (.returned .none)

/-! ### The machine -/

/-- Refuses to nest any deeper. -/
def tooDeep {α : Type} (whilst : String) : Exec α :=
  Exec.raise "RecursionError" ("maximum recursion depth exceeded" ++ whilst)

/-- Refuses a call. -/
def refuseCall (f : Value) : Exec Value :=
  match f with
  | .kind _ | .builtin _ | .native _ _ | .method _ _ _ => tooDeep " while calling a Python object"
  | _ => tooDeep ""

/-- The machine with calls nested up to some depth. -/
def engine : Nat → Engine
  | 0 =>
    { call := fun f _ _ => refuseCall f
      run := fun _ => tooDeep ""
      quoted := fun _ => tooDeep " while getting the repr of an object"
      compare := fun _ _ _ => tooDeep " in comparison"
      hash := fun _ => tooDeep ""
      next := fun _ => tooDeep "" }
  | n + 1 =>
    let inner := engine n
    let run (f : Frame) : Exec Exit := do loop inner (← Exec.fuel) (.go f)
    let here := { inner with run := run }
    { call := Call.value here
      run := run
      quoted := Show.quoted inner
      compare := Compare.answer inner
      hash := Measure.hash inner
      next := Iterate.next inner }

/-- How deep calls may nest. -/
def maxDepth : Nat := 990

/-- The machine. -/
def machine : Engine := engine maxDepth

end Exemplar.Machine.Run
