import Exemplar.Machine.Classes
import Exemplar.Machine.Generator

/-
  Methods that operations of the language go through, called by their names. They answer by the rule
  of the type that declares them, whatever a class that extends it says.

  Methods of functions that can be suspended, of what waits for them, and of iterators.
-/

namespace Exemplar.Machine.Slot

/-- Refuses as many arguments. -/
def taking (wanted : Nat) (args : List Value) : Exec Unit := do
  if args.length != wanted then
    Exec.typeError ("expected " ++ Passed.counted wanted "argument" ++ ", got " ++
      toString args.length)

/-- The name of an attribute. -/
def attributeName (v : Value) : Exec String := do
  match ← Typing.unboxed v with
  | .str s => pure s
  | _ => Exec.typeError ("attribute name must be string, not '" ++ (← Typing.word v) ++ "'")

def comparison? (name : String) : Option CompareOp :=
  [CompareOp.lt, .le, .eq, .notEq, .gt, .ge].find? fun op => Compare.methodName op == name

/-- The operation that a method is for, and whether the value that it is called on is the right
operand. -/
def deed? (name : String) : Option (Operate.Deed × Bool) :=
  let deeds := BinaryOp.all.map Operate.Deed.op ++ [.divmod]
  match deeds.find? fun d => d.method == name with
  | some d => some (d, false)
  | none => (deeds.find? fun d => d.reflected == name).map (·, true)

/-- The operation of a method that changes a value in its place. -/
def updating? (name : String) : Option BinaryOp :=
  BinaryOp.all.find? fun op => "__i" ++ op.word ++ "__" == name

/-! ### Operators -/

/-- An operation as a type answers it. -/
def operate (e : Engine) (k : Kind) (d : Operate.Deed) (swapped : Bool) (v w : Value) :
    Exec Value := do
  let (a, b) := if swapped then (w, v) else (v, w)
  match k, d with
  | .str, .op .add | .bytes, .op .add | .bytearray, .op .add | .list, .op .add
  | .tuple, .op .add =>
    match ← Operate.Sequence.ofValue? v with
    | some s => Operate.joined s v w
    | none => pure .notImplemented
  | .str, .op .mult | .bytes, .op .mult | .bytearray, .op .mult | .list, .op .mult
  | .tuple, .op .mult =>
    match ← Operate.Sequence.ofValue? v with
    | some s => do s.times (← Measure.sizedIndex e "OverflowError" w)
    | none => pure .notImplemented
  | k, d =>
    match k.lineage.findSome? fun j => Operate.familyOf j d with
    | some family => Operate.ofNative e family d a b
    | none => pure .notImplemented

/-- A power of integers up to multiples of a third one. -/
def powerWithin (a b m : Int) : Exec Value := do
  if m == 0 then Exec.valueError "pow() 3rd argument cannot be 0"
  if b < 0 then
    match inverse? (m.natAbs.log2 * 2 + 4) (a.emod m) m.natAbs 1 0 with
    | some a => pure (.int ((power (b.natAbs.log2 + 2) a b.natAbs m).fmod m))
    | none => Exec.valueError "base is not invertible for the given modulus"
  else pure (.int ((power (b.toNat.log2 + 2) a b.toNat m).fmod m))
where
  /-- A power up to multiples of `m`; each step halves the exponent. -/
  power : Nat → Int → Nat → Int → Int
    | 0, _, _, _ => 1
    | n + 1, a, b, m =>
      if b == 0 then 1
      else
        let h := power n (a * a % m) (b / 2) m
        if b % 2 == 0 then h else a * h % m
  /-- What to multiply a number with to get `1` up to multiples of another; `s` and `t` are such
  factors for `a` and `b`, which shrink to their greatest common divisor. -/
  inverse? : Nat → Int → Int → Int → Int → Option Int
    | 0, _, _, _, _ => none
    | n + 1, a, b, s, t =>
      if b == 0 then (if a == 1 then some s else none)
      else inverse? n b (a % b) t (s - a / b * t)

/-! ### Attributes of instances -/

/-- What a value gives as an attribute of a class, asked for by its own method. -/
def descend (e : Engine) (self : Value) (args : List Value) : Exec Value := do
  let owned := args.headD .none
  let owner := args.getD 1 .none
  if owned.isNone && owner.isNone then
    Exec.typeError "__get__(None, None) is invalid"
  if owned.isNone then Typing.bindToClass e self owner
  else
    let cls ← if owner.isNone then Typing.of owned else pure owner
    Attribute.bound e self owned cls

/-- What stands in a class sets or deletes what it stands for in an instance. -/
def assign (e : Engine) (self target : Value) (w : Attribute.Change) : Exec Value := do
  match ← Typing.bindingOf self with
  | .property p =>
    match w with
    | some w =>
      if p.set.isNone then Typing.refuseProperty p target "setter"
      let _ ← e.call p.set [target, w] []
    | none =>
      if p.erase.isNone then Typing.refuseProperty p target "deleter"
      let _ ← e.call p.erase [target] []
  | .slot c n => Attribute.changeSlot target c n w
  | .native k n (.field writable) =>
    if !writable then Field.refuseWrite k n
    match w with
    | some w => Field.put e target k n w
    | none => Field.erase target k n
  | _ => pure ()
  pure .none

/-! ### Stand-ins -/

/-- Whether a value can be called. -/
def isCallable (v : Value) : Exec Bool := do
  match v with
  | .kind _ | .builtin _ | .native _ _ | .method _ _ _ | .bound _ _ | .generic _ _ => pure true
  | v =>
    if ← Typing.isType v then pure true
    else return (← Typing.special? v "__call__").isSome

/-- A stand-in called: its only argument if that can be called, else another stand-in. -/
def callStandin (e : Engine) (v : Value) (args : List Value) (named : Fields) : Exec Value := do
  if (named.lookup "self").isSome then
    Exec.typeError "StubModule.__call__() got multiple values for argument 'self'"
  let another : Exec Value := do
    let own ← Attribute.get e v "_name"
    Attribute.standin (.str ((← Format.value e own "") ++ "()"))
  match args with
  | [w] => if named.isEmpty && (← isCallable w) then pure w else another
  | _ => another

/-- A method of stand-ins. -/
def onStandin (e : Engine) (v : Value) (name : String) (args : List Value) (named : Fields) :
    Exec Value := do
  let refuse (wanted : Nat) (missing : List String) : Exec Unit := do
    let front := "StubModule." ++ name ++ "() "
    if args.length < wanted then
      Exec.typeError (front ++ "missing " ++ Passed.counted 1 "required positional argument" ++
        ": '" ++ ((missing.drop args.length).headD "") ++ "'")
    if wanted < args.length then
      Exec.typeError (front ++ "takes " ++ Passed.counted (wanted + 1) "positional argument" ++
        " but " ++ toString (args.length + 1) ++ " were given")
  match name with
  | "__call__" => callStandin e v args named
  | "__getitem__" =>
    refuse 1 ["key"]
    pure v
  | "__or__" | "__ror__" =>
    refuse 1 ["other"]
    pure v
  | "__mro_entries__" =>
    refuse 1 ["bases"]
    pure (.tuple [])
  | "__getattr__" =>
    refuse 1 ["attr"]
    match args.headD .none with
    | .str n => Attribute.ofStandin e v n
    | w => do
      Exec.raise "AttributeError" ("'" ++ (← Typing.word w) ++
        "' object has no attribute 'startswith'")
  | "__repr__" =>
    refuse 0 []
    match v with
    | .object a => return .str (← Show.stubText e a)
    | v => return .str (← Show.plainly e v)
  | _ => pure .none

/-! ### By name -/

/-- The quoted text of a value by the rule of a type. -/
def quoted (e : Engine) (k : Kind) (v : Value) : Exec String := do
  match k, v with
  | .object, v => Show.objectText v
  | _, .object a => do Show.ofData e a (← Exec.object a)
  | _, v => Show.plainly e v

/-- What waits for a coroutine, or for a step of an asynchronous generator. -/
def awaitable (name : String) (d : Data) : Exec Value := Exec.new (.awaitable name) d

/-- The next value of an iterator, or the exception that ends it. -/
def next (e : Engine) (v : Value) : Exec Value := do
  match v with
  | .object a =>
    match ← Exec.dataAt a with
    | .iterator i =>
      match ← Iterate.step e a i with
      | some (w, i) =>
        Exec.setData a (.iterator i)
        pure w
      | none =>
        if !Iterate.asksOthers i then Exec.setData a (.iterator .done)
        Exec.raiseWith "StopIteration" [] [("value", .none)]
    | .generator g => do Generator.yielded (← Generator.resume e a g .none)
    | .awaiting inner =>
      match ← Generator.of? inner with
      | some (b, g) => do Generator.yielded (← Generator.resume e b g .none)
      | none => pure .none
    | .step genAt kind progress => Generator.step e a genAt kind progress (.ok .none)
    | _ => Exec.typeError ("'" ++ (← Typing.word v) ++ "' object is not an iterator")
  | v => Exec.typeError ("'" ++ (← Typing.word v) ++ "' object is not an iterator")

/-- What a value is as a number of some kind. -/
def asNumber (e : Engine) (name : String) (v : Value) : Exec Value := do
  let w ← Typing.unboxed v
  let plain : Value := match w with
    | .bool b => .int (if b then 1 else 0)
    | w => w
  match name, plain with
  | "__float__", _ => do
    match ← Construct.real? e w with
    | some x => pure (.float x)
    | none => pure plain
  | "__int__", .float x => return .int (← Exec.ofExcept (Rounding.whole Binary64.truncate x))
  | "__neg__", _ => pure ((Numeric.ofValue? w).bind (Numeric.unary .minus) |>.getD .none)
  | "__invert__", _ => pure ((Numeric.ofValue? w).bind (Numeric.unary .invert) |>.getD .none)
  | "__abs__", _ => Rounding.absolute e w
  | _, plain => pure plain

/-- Calls a method that operations go through. -/
def call (e : Engine) (k : Kind) (name : String) (v : Value) (args : List Value)
    (named : Fields) : Exec Value := do
  if k == .stub && name != "__init__" then return ← onStandin e v name args named
  if name == "__init__" then
    if k == .type then Classes.checkSetUp args named else Construct.setUp e k v args named
    return .none
  if name == "__call__" then return ← e.call v args named
  if !named.isEmpty then
    Exec.typeError ("wrapper " ++ name ++ "() takes no keyword arguments")
  let arg := args.headD .none
  match comparison? name, deed? name, updating? name with
  | some op, _, _ =>
    taking 1 args
    if k == .object && op == .notEq then Compare.differing e v arg
    else Compare.ofKind e k op v arg
  | none, some (d, swapped), _ =>
    match d, args with
    | .op .pow, [b, m] =>
      match swapped, ← Measure.integer? v, ← Measure.integer? b, ← Measure.integer? m with
      | false, some a, some b, some m => powerWithin a b m
      | _, _, _, _ => if m.isNone then operate e k d swapped v b else pure .notImplemented
    | _, _ =>
      taking 1 args
      operate e k d swapped v arg
  | none, none, some op =>
    taking 1 args
    Operate.inPlace e op v arg
  | none, none, none =>
  match name with
  | "__repr__" =>
    taking 0 args
    return .str (← quoted e k v)
  | "__str__" =>
    taking 0 args
    match k with
    | .object => return .str (← e.quoted v)
    | k => return .str (← Show.plainOfKind e k v)
  | "__hash__" =>
    taking 0 args
    let h ← match k, v with
      | .object, .object a => pure (hashOfIdentity (UInt64.ofNat a))
      | _, v => Measure.plainHash e v
    pure (.int h.toInt64.toInt)
  | "__getattribute__" =>
    taking 1 args
    Attribute.plain e v (← attributeName arg)
  | "__setattr__" =>
    taking 2 args
    Attribute.changePlainly e v (← attributeName arg) (some (args.getD 1 .none))
    pure .none
  | "__delattr__" =>
    taking 1 args
    Attribute.changePlainly e v (← attributeName arg) none
    pure .none
  | "__bool__" =>
    taking 0 args
    return .bool (← Measure.plainTruth v)
  | "__len__" =>
    taking 0 args
    return .int ((← Measure.length? v).getD 0)
  | "__getitem__" =>
    taking 1 args
    Item.plainly e v arg
  | "__setitem__" =>
    taking 2 args
    Item.plainlyPut e v arg (args.getD 1 .none)
    pure .none
  | "__delitem__" =>
    taking 1 args
    Item.plainlyErase e v arg
    pure .none
  | "__contains__" =>
    taking 1 args
    return .bool (← Item.plainlyContains e v arg)
  | "__iter__" =>
    taking 0 args
    match ← Iterate.plain? v with
    | some it => pure it
    | none => pure v
  | "__next__" =>
    taking 0 args
    next e v
  | "__aiter__" => pure v
  | "__anext__" =>
    match v with
    | .object a => awaitable "async_generator_asend" (.step a (.send .none) .fresh)
    | v => pure v
  | "__await__" =>
    taking 0 args
    match ← Typing.of v with
    | .kind .coroutine => awaitable "coroutine_wrapper" (.awaiting v)
    | _ => pure v
  | "__get__" => descend e v args
  | "__set__" =>
    taking 2 args
    assign e v arg (some (args.getD 1 .none))
  | "__delete__" =>
    taking 1 args
    assign e v arg none
  | "__neg__" | "__pos__" | "__abs__" | "__invert__" | "__int__" | "__float__" | "__index__" =>
    taking 0 args
    asNumber e name v
  | _ => pure .none

end Exemplar.Machine.Slot

namespace Exemplar.Machine.Method.OnGenerator

/-- The exception that a program raises in a generator by a class, a value and a trace of it. -/
def given (e : Engine) (p : Passed) : Exec Value := do
  Passed.between { p with full := p.short } 1 3
  let cls := p.arg 0
  let value := p.arg 1
  let trace := p.arg 2
  if !trace.isNone && !(← Typing.isA trace .traceback) then
    Exec.typeError "throw() third argument must be a traceback object"
  let keeping (x : Value) : Exec Value := do
    if !trace.isNone then Exec.modifyIncident x fun i => { i with trace := trace }
    pure x
  if ← Typing.isExceptionType cls then
    if ← Typing.isOf value cls then return ← keeping value
    let args ← match value, ← Typing.unboxed value with
      | .none, _ => pure []
      | _, .tuple items => pure items
      | v, _ => pure [v]
    let x ← e.call cls args []
    if !(← Typing.isError x "BaseException") then
      Exec.typeError ("calling " ++ (← e.quoted cls) ++ " should have returned an instance of " ++
        "BaseException, not " ++ (← Show.typeName (← Typing.of x)))
    keeping x
  else if ← Typing.isError cls "BaseException" then
    if !value.isNone then Exec.typeError "instance exception may not have a separate value"
    keeping cls
  else
    Exec.typeError ("exceptions must be classes or instances deriving from BaseException, not " ++
      (← Typing.word cls))

/-- Calls a method of a generator or coroutine. -/
def call (e : Engine) (a : Nat) (g : Generator) (p : Passed) : Exec Value := do
  match p.short with
  | "send" => do Generator.yielded (← Generator.resume e a g (← p.one))
  | "throw" =>
    let x ← given e p
    Generator.yielded (← Generator.throwInto e true p.args Generator.depth a g x)
  | "close" =>
    p.nothing
    Generator.close e Generator.depth (.object a)
    pure .none
  | "asend" => do Slot.awaitable "async_generator_asend" (.step a (.send (← p.one)) .fresh)
  | "athrow" => do Slot.awaitable "async_generator_athrow" (.step a (.throw (← given e p)) .fresh)
  | "aclose" =>
    p.nothing
    Slot.awaitable "async_generator_athrow" (.step a .close .fresh)
  | _ => unsupported p.full

/-- Calls a method of what waits for a step of an asynchronous generator. -/
def onStep (e : Engine) (a genAt : Nat) (kind : StepKind) (progress : StepProgress) (p : Passed) :
    Exec Value := do
  match p.short with
  | "send" => do Generator.step e a genAt kind progress (.ok (← p.one))
  | "throw" => do Generator.step e a genAt kind progress (.error (← given e p))
  | "close" =>
    p.nothing
    Generator.setStep a genAt kind .ended
    pure .none
  | _ => unsupported p.full

/-- How many items an iterator still has, where it knows. -/
def left (e : Engine) : Iterator → Exec Nat
  | .values items => pure items.length
  | .counting _ _ n => pure n
  | .listItems list next => return (← Item.listSize list) - next
  | .listBackward _ next => pure (next + 1).toNat
  | .byteItems bytes next => return (← Item.bytesSize bytes) - next
  | .entries _ dict _ used left => do
    let now := (← Mapping.table dict).used
    pure (if now == used then left else 0)
  | .entriesBackward _ dict next used => do
    let now := (← Mapping.table dict).used
    pure (if now == used then min next now else 0)
  | .members s _ used => do
    let now := (← Bag.members s).used
    pure (if now == used then now else 0)
  | .sequence container next => do
    let n ← Measure.size? e container
    pure (n.getD 0 - next)
  | .sequenceBackward _ next => pure (next + 1).toNat
  | _ => pure 0

/-- Calls a method of an iterator. -/
def onIterator (e : Engine) (i : Iterator) (p : Passed) : Exec Value := do
  match p.short with
  | "__length_hint__" =>
    p.nothing
    return .int (← left e i)
  | _ => unsupported p.full

end Exemplar.Machine.Method.OnGenerator
