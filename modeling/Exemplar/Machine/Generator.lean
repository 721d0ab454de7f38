import Exemplar.Machine.Attribute

/-
  Functions that can be suspended: running one on until it yields or returns, raising an exception
  where it waits, and ending it. While it is suspended the exceptions that it is handling are put
  aside. An end of iteration that would leave it unnoticed is turned into another error.
-/

namespace Exemplar.Machine.Generator

/-- What running a generator on comes to. -/
inductive Resumed
  | yielded (v : Value)
  /-- What it waits for yields a value. -/
  | awaiting (v : Value)
  | returned (v : Value)

def word (g : Generator) : String :=
  match g.manner with
  | .coroutine => "coroutine"
  | .asyncGenerator => "async generator"
  | _ => "generator"

/-- The exceptions that blocks are handling, the innermost first. -/
def held (blocks : List Block) : List Value := blocks.filterMap Block.held?

/-- An exception that another one has caused. -/
def raiseFrom {α : Type} (cls text : String) (cause : Value) : Exec α := do
  throw (.raised (← Exec.new (.exception cls) (.exception
    { args := [.str text], context := cause, cause := cause, suppressed := true })))

/-- What an exception comes to that leaves a generator. -/
def escape {α : Type} (g : Generator) (x : Value) : Exec α := do
  if ← Typing.isError x "StopIteration" then
    raiseFrom "RuntimeError" (word g ++ " raised StopIteration") x
  if g.manner == .asyncGenerator && (← Typing.isError x "StopAsyncIteration") then
    raiseFrom "RuntimeError" (word g ++ " raised StopAsyncIteration") x
  throw (.raised x)

/-- Runs the frame of a generator on. -/
def advance (e : Engine) (a : Nat) (g : Generator) (frame : Frame) : Exec Resumed := do
  let progress (p : Progress) : Exec Unit := Exec.setData a (.generator { g with progress := p })
  progress .running
  modify fun s => { s with handled := held frame.blocks ++ s.handled }
  let suspend (frame : Frame) : Exec Unit := do
    progress (.suspended frame)
    modify fun s => { s with handled := s.handled.drop (held frame.blocks).length }
  let exit ← Exec.catching (e.run frame) fun x => do
    progress .finished
    escape g x
  match exit with
  | .yielded v frame =>
    suspend frame
    pure (.yielded v)
  | .awaiting v frame =>
    suspend frame
    pure (.awaiting v)
  | .returned v =>
    progress .finished
    pure (.returned v)

def refuseRunning {α : Type} (g : Generator) : Exec α :=
  Exec.valueError (word g ++ " already executing")

/-- Sends a value to a generator. -/
def resume (e : Engine) (a : Nat) (g : Generator) (v : Value) : Exec Resumed := do
  match g.progress with
  | .fresh frame =>
    if !v.isNone then
      Exec.typeError ("can't send non-None value to a just-started " ++ word g)
    advance e a g frame
  | .suspended frame => advance e a g { frame with stack := v :: frame.stack }
  | .running => refuseRunning g
  | .finished =>
    if g.manner == .coroutine then
      Exec.raise "RuntimeError" "cannot reuse already awaited coroutine"
    else pure (.returned .none)

/-- Raises an exception in a frame where it waits. -/
def raiseIn (e : Engine) (a : Nat) (g : Generator) (frame : Frame) (x : Value) : Exec Resumed :=
  advance e a g { frame with code := [.const x, .raise false] }

/-- The generator that a value is. -/
def of? (v : Value) : Exec (Option (Nat × Generator)) := do
  match v with
  | .object a =>
    match ← Exec.dataAt a with
    | .generator g => pure (some (a, g))
    | _ => pure none
  | _ => pure none

/-- The iterator that a suspended frame hands over to, with the frame without it. -/
def delegate? (frame : Frame) : Option (Value × Frame) :=
  match frame.code, frame.stack with
  | .yieldFrom :: rest, it :: stack => some (it, { frame with code := rest, stack := stack })
  | _, _ => none

/-- The value that the end of an iteration carries. -/
def valueOf (x : Value) : Exec Value := do
  return ((← Exec.incident? x).bind fun i => i.parts.lookup "value").getD .none

/-- The generator as it is now. -/
def current (a : Nat) (g : Generator) : Exec Generator := do
  match ← Exec.dataAt a with
  | .generator g => pure g
  | _ => pure g

mutual

/-- Raises an exception where a generator waits. What it hands over to is asked first, with what
the program has `given` for the exception; if `closing`, that is ended when a generator is to
exit. -/
def throwInto (e : Engine) (closing : Bool) (given : List Value) :
    Nat → Nat → Generator → Value → Exec Resumed
  | 0, _, _, x => throw (.raised x)
  | n + 1, a, g, x => do
    match g.progress with
    | .fresh frame => raiseIn e a g { frame with blocks := [] } x
    | .running => refuseRunning g
    | .finished =>
      if g.manner == .coroutine then
        Exec.raise "RuntimeError" "cannot reuse already awaited coroutine"
      throw (.raised x)
    | .suspended frame =>
      match delegate? frame with
      | none => raiseIn e a g frame x
      | some (it, bare) =>
        let here (x : Value) : Exec Resumed := do raiseIn e a (← current a g) bare x
        if closing && (← Typing.isError x "GeneratorExit") then
          Exec.setData a (.generator { g with progress := .running })
          let failure ← Exec.catching (do
            close e n it
            pure none) fun y => pure (some y)
          here (failure.getD x)
        else
          let inner : Exec (Option Resumed) := do
            match ← of? it with
            | some (b, h) =>
              if h.manner == .asyncGenerator then pure none
              else some <$> throwInto e closing given n b h x
            | none =>
              match ← Attribute.get? e it "throw" with
              | some f => return some (.yielded (← e.call f given []))
              | none => pure none
          Exec.setData a (.generator { g with progress := .running })
          let outcome ← Exec.catching (Except.ok <$> inner) fun y => pure (.error y)
          Exec.setData a (.generator { g with progress := .suspended frame })
          match outcome with
          | .ok none => here x
          | .ok (some (.returned v)) => advance e a g { bare with stack := v :: bare.stack }
          | .ok (some (.yielded v)) | .ok (some (.awaiting v)) => pure (.awaiting v)
          | .error y =>
            if ← Typing.isError y "StopIteration" then
              let v ← valueOf y
              advance e a g { bare with stack := v :: bare.stack }
            else here y

/-- Ends what a generator hands over to, or a generator. -/
def close (e : Engine) : Nat → Value → Exec Unit
  | 0, _ => pure ()
  | n + 1, it => do
    match ← of? it with
    | none =>
      match ← Attribute.get? e it "close" with
      | some f =>
        let _ ← e.call f [] []
      | none => pure ()
    | some (a, g) =>
      match g.progress with
      | .finished => pure ()
      | .running => refuseRunning g
      | .fresh _ => Exec.setData a (.generator { g with progress := .finished })
      | .suspended frame =>
        let (frame, failure) ← match delegate? frame with
          | none => pure (frame, none)
          | some (inner, bare) =>
            Exec.setData a (.generator { g with progress := .running })
            let failure ← Exec.catching (do
              close e n inner
              pure none) fun y => pure (some y)
            pure (bare, failure)
        let x ← match failure with
          | some y => pure y
          | none => Exec.new (.exception "GeneratorExit") (.exception {})
        let outcome ← Exec.catching (some <$> raiseIn e a g frame x) fun y => do
          if (← Typing.isError y "GeneratorExit") || (← Typing.isError y "StopIteration") then
            pure none
          else throw (.raised y)
        match outcome with
        | some (.yielded _) | some (.awaiting _) =>
          Exec.raise "RuntimeError" (word g ++ " ignored GeneratorExit")
        | _ => pure ()

end

/-- How many generators may hand over to one another. -/
def depth : Nat := 1000

/-- What a generator yields next, or the exception that ends it. -/
def yielded (r : Resumed) : Exec Value :=
  match r with
  | .yielded v | .awaiting v => pure v
  | .returned v =>
    if v.isNone then Exec.raiseWith "StopIteration" [] [("value", .none)]
    else Exec.raiseWith "StopIteration" [v] [("value", v)]

/-! ### Asynchronous generators -/

def setStep (a g : Nat) (kind : StepKind) (progress : StepProgress) : Exec Unit :=
  Exec.setData a (.step g kind progress)

/-- The end of an asynchronous iteration. -/
def ended {α : Type} : Exec α := Exec.raiseArgs "StopAsyncIteration" []

/-- Marks an asynchronous generator as ended by an exception of the kinds that end one. -/
def noteEnd (g : Nat) (x : Value) : Exec Unit := do
  if (← Typing.isError x "StopAsyncIteration") || (← Typing.isError x "GeneratorExit") then
    Exec.modifyData g fun
      | .generator h => .generator { h with closed := true }
      | d => d

/-- What a step makes of what its generator came to: a yielded value ends the waiting for it. -/
def unwrapped (g : Nat) (m : Exec Resumed) : Exec Value :=
  Exec.catching (do
    match ← m with
    | .awaiting v => pure v
    | .yielded v => Exec.raiseWith "StopIteration" [v] [("value", v)]
    | .returned _ => ended) fun x => do
      noteEnd g x
      throw (.raised x)

/-- Sends a value to a step of an asynchronous generator, or raises an exception in it. -/
def step (e : Engine) (a : Nat) (genAt : Nat) (kind : StepKind) (progress : StepProgress)
    (input : Except Value Value) : Exec Value := do
  let isStep := match kind with
    | .send _ => true
    | _ => false
  let g ← match ← Exec.dataAt genAt with
    | .generator g => pure g
    | _ => Exec.raise "RuntimeError" "no generator"
  if progress == .ended then
    Exec.raise "RuntimeError" (if isStep then "cannot reuse already awaited __anext__()/asend()"
      else "cannot reuse already awaited aclose()/athrow()")
  let closing : Exec Value → Exec Value := fun m => Exec.catching m fun x => do
    setStep a genAt kind .ended
    throw (.raised x)
  let ordinary (v : Value) : Exec Value := unwrapped genAt (resume e genAt g v)
  let raised (x : Value) : Exec Value := unwrapped genAt (throwInto e false [x] depth genAt g x)
  let ending (m : Exec Resumed) : Exec Value := do
    let outcome ← Exec.catching (some <$> m) fun x => do
      noteEnd genAt x
      if (← Typing.isError x "StopAsyncIteration") || (← Typing.isError x "GeneratorExit") then
        pure none
      else throw (.raised x)
    match outcome with
    | some (.awaiting v) => pure v
    | some (.yielded _) => Exec.raise "RuntimeError" "async generator ignored GeneratorExit"
    | _ => Exec.raiseWith "StopIteration" [] [("value", .none)]
  let isFinished := match g.progress with
    | .finished => true
    | _ => false
  let throughout : Exec Value := do
    match kind, progress, input with
    | .send _, _, .error x => raised x
    | .send v, .fresh, .ok w =>
      setStep a genAt kind .started
      ordinary (if w.isNone then v else w)
    | .send _, _, .ok w => ordinary w
    | _, .fresh, .ok w =>
      if isFinished then Exec.raiseWith "StopIteration" [] [("value", .none)]
      if g.closed then ended
      if !w.isNone then
        Exec.raise "RuntimeError" "can't send non-None value to a just-started coroutine"
      setStep a genAt kind .started
      match kind with
      | .throw x => raised x
      | _ =>
        let g := { g with closed := true }
        Exec.setData genAt (.generator g)
        ending (do
          let x ← Exec.new (.exception "GeneratorExit") (.exception {})
          throwInto e false [x] depth genAt g x)
    | .throw _, _, .ok w => ordinary w
    | .throw _, _, .error x => raised x
    | .close, _, .ok w => ending (resume e genAt g w)
    | .close, _, .error x => ending (throwInto e false [x] depth genAt g x)
  closing throughout

end Exemplar.Machine.Generator
