import Exemplar.Machine.Builtin

/-
  Calling a value: a declared function runs, a class makes an instance, and what is there without a
  declaration does its work.

  Items and entries that go into collections one by one or all at once, and arguments of a call
  that are spread.
-/

namespace Exemplar.Machine.Call

/-! ### Functions -/

/-- The frame of a function: its variables, the parameters first, and those that it shares. -/
def frame (f : Function) (params : Array (Option Value)) : Exec Frame := do
  let vars := f.code.vars
  let missing := vars.locals.length - params.size
  let locals := if missing == 0 then params else params ++ Array.replicate missing none
  let cells ←
    if vars.cells.isEmpty then pure f.closure
    else do
      let parameters := f.code.signature.all
      let own ← vars.cells.mapM fun n =>
        Exec.newCell ((parameters.idxOf? n).bind fun i => params.getD i none)
      pure (own.toArray ++ f.closure)
  pure { code := f.code.body, locals := locals, cells := cells, owner := f.code }

/-- The type of what calling a function comes to if it can be suspended. -/
def kindOf : Manner → Kind
  | .coroutine => .coroutine
  | .asyncGenerator => .asyncGenerator
  | _ => .generator

/-- Calls a declared function. One that yields or waits only starts when it is resumed. -/
def function (e : Engine) (f : Function) (args : List Value) (named : Fields) : Exec Value := do
  let frame ← frame f (← Arguments.bind f args named)
  match f.code.manner with
  | .plain =>
    match ← e.run frame with
    | .returned v => pure v
    | .yielded v _ | .awaiting v _ => pure v
  | m =>
    Exec.new (kindOf m) (.generator
      { manner := m, name := f.name, qualified := f.qualified, code := f.code,
        progress := .fresh frame })

/-! ### Classes -/

/-- The first step of making a value of a class. -/
def made (e : Engine) (cls : Value) (args : List Value) (named : Fields) : Exec Value := do
  match ← Typing.declared? cls "__new__" with
  | some (.native .type _) => Classes.ofArguments e cls args named
  | some (.native k _) => Construct.make e k cls args named
  | some f =>
    let f ← match ← Typing.bindingOf f with
      | .staticMethod g => pure g
      | .function => pure f
      | _ => Typing.bindToClass e f cls
    e.call f (cls :: args) named
  | none => Exec.typeError ("cannot create '" ++ (← Typing.name cls) ++ "' instances")

/-- The second step: what has been made is set up by what its own class says. -/
def setUp (e : Engine) (v : Value) (args : List Value) (named : Fields) : Exec Unit := do
  let t ← Typing.of v
  match ← Typing.declared? t "__init__" with
  | none => pure ()
  | some (.native .type _) => Classes.checkSetUp args named
  | some (.native k _) => Construct.setUp e k v args named
  | some f =>
    let r ← match ← Typing.bindingOf f with
      | .function => e.call f (v :: args) named
      | _ => do e.call (← Typing.bind e f v t) args named
    if !r.isNone then
      Exec.typeError ("__init__() should return None, not '" ++ (← Typing.word r) ++ "'")

/-- Makes a value of a declared class. -/
def instantiate (e : Engine) (cls : Value) (args : List Value) (named : Fields) :
    Exec Value := do
  let v ← made e cls args named
  if ← Typing.isOf v cls then setUp e v args named
  pure v

/-- Calls a type as types are called that have no way of their own: the type of a value is asked
for, or a value is made. -/
def ofType (e : Engine) (t : Value) (args : List Value) (named : Fields) : Exec Value := do
  match t, args with
  | .kind .type, [v] => if named.isEmpty then Typing.of v else refuseType
  | .kind .type, [_, _, _] => Classes.ofArguments e t args named
  | .kind .type, _ => refuseType
  | .kind k, args => Construct.ofKind e k args named
  | t, args => instantiate e t args named
where
  refuseType : Exec Value := Exec.typeError "type() takes 1 or 3 arguments"

/-! ### Any value -/

/-- Refuses a value that cannot be called. -/
def refuse (v : Value) : Exec Value := do
  Exec.typeError ("'" ++ (← Typing.word v) ++ "' object is not callable")

/-- Calls a value by what its class declares for that. -/
def byClass (e : Engine) (v : Value) (args : List Value) (named : Fields) : Exec Value := do
  let t ← Typing.of v
  match ← Typing.ofProgram? t "__call__" with
  | none => refuse v
  | some f =>
    match ← Typing.bindingOf f with
    | .function => e.call f (v :: args) named
    | _ => do e.call (← Typing.bind e f v t) args named

/-- Calls what an address leads to. -/
def object (e : Engine) (v : Value) (a : Nat) (args : List Value) (named : Fields) :
    Exec Value := do
  let o ← Exec.object a
  match o.data, o.cls with
  | .function f, _ => function e f args named
  | .classOf _, .kind .type => ofType e v args named
  | .classOf _, m =>
    match ← Typing.ofProgram? m "__call__" with
    | none => ofType e v args named
    | some _ => byClass e v args named
  | .wrapper g, .kind .staticMethod => e.call g args named
  | _, .kind .stub => Slot.callStandin e v args named
  | _, _ => byClass e v args named

/-- Calls a function that is there without a declaration, of its own or in a module. -/
def builtin (e : Engine) (name : String) (args : List Value) (named : Fields) : Exec Value :=
  match name.splitOn "." with
  | [path, short] => Library.call e path short args named
  | _ => Builtin.call e name args named

/-- Calls a value. -/
def value (e : Engine) (f : Value) (args : List Value) (named : Fields) : Exec Value := do
  match f with
  | .object a => object e f a args named
  | .bound (.object a) self =>
    match ← Exec.dataAt a with
    | .function g => function e g (self :: args) named
    | _ => e.call (.object a) (self :: args) named
  | .bound g self => e.call g (self :: args) named
  | .method self .type "__call__" => ofType e self args named
  | .native .type "__call__" =>
    match args with
    | t :: rest =>
      if ← Typing.isType t then ofType e t rest named
      else Method.unbound e .type "__call__" args named
    | [] => Method.unbound e .type "__call__" args named
  | .method self k n => Method.call e self k n args named
  | .native k n => Method.unbound e k n args named
  | .builtin n => builtin e n args named
  | .kind _ => ofType e f args named
  | .generic origin _ => e.call origin args named
  | v => refuse v

/-! ### What is called, in messages -/

/-- A function as messages about its arguments have it. -/
def text (e : Engine) (f : Value) : Exec String := do
  match ← Attribute.get? e f "__qualname__" with
  | none => Show.plain e f
  | some name =>
    let name ← Show.plain e name
    match ← Attribute.get? e f "__module__" with
    | none | some .none | some (.str "builtins") => pure (name ++ "()")
    | some m => return (← Show.plain e m) ++ "." ++ name ++ "()"

end Exemplar.Machine.Call

namespace Exemplar.Machine.Spread

/-- Whether the type of a value says how its items are had. -/
def hasItems (v : Value) : Exec Bool := do
  match v with
  | .object _ =>
    if (← Iterate.isSequence v) || (← Typing.isA v .stub) then return true
    match ← Typing.special? v "__iter__" with
    | some _ => pure true
    | none => return (← Iterate.plain? v).isSome
  | v => return (← Iterate.plain? v).isSome

/-- All items of a value, or what is raised about one that has none. -/
def items (e : Engine) (v : Value) (message : Exec String) : Exec (Array Value) :=
  Exec.catching (Iterate.array e v) fun x => do
    if (← Typing.isError x "TypeError") && !(← hasItems v) then Exec.typeError (← message)
    else throw (.raised x)

/-! ### Collections -/

/-- Adds a value to a list or a set. -/
def addItem (e : Engine) (a : Nat) (v : Value) : Exec Unit := do
  match ← Exec.dataAt a with
  | .set _ => Bag.put e a v
  | _ =>
    Exec.modifyData a fun
      | .list items => .list (items.push v)
      | d => d

/-- Puts the entries of a mapping into a dictionary. -/
def addMapping (e : Engine) (a : Nat) (v : Value) : Exec Unit := do
  match ← Mapping.entries? v with
  | some t => Mapping.putTable e a t
  | none => do Mapping.putMapping e a v (← Attribute.get e v "keys")

/-- Adds all that a value yields to the collection at an address. -/
def addAll (e : Engine) (a : Nat) (v : Value) : Exec Unit := do
  match ← Exec.dataAt a with
  | .dict _ =>
    Exec.catching (addMapping e a v) fun x => do
      if ← Typing.isError x "AttributeError" then
        Exec.typeError ("'" ++ (← Typing.word v) ++ "' object is not a mapping")
      else throw (.raised x)
  | .set _ => Bag.update e a v
  | _ =>
    let more ← items e v do
      return "Value after * must be an iterable, not " ++ (← Typing.word v)
    Exec.modifyData a fun
      | .list items => .list (items ++ more)
      | d => d

/-! ### Arguments -/

/-- Puts an argument by name into a dictionary that does not have it yet. -/
def addName (e : Engine) (callee : Value) (a : Nat) (k v : Value) : Exec Unit := do
  match ← Mapping.get? e a k with
  | none => Mapping.put e a k v
  | some _ =>
    if (← get).handled.isEmpty then
      Exec.typeError ((← Call.text e callee) ++ " got multiple values for keyword argument '" ++
        (← Show.plain e k) ++ "'")
    else Exec.raiseArgs "KeyError" [k]

/-- Adds the arguments by name that a value gives. -/
def addNamed (e : Engine) (callee : Value) (a : Nat) (v : Value) : Exec Unit :=
  Exec.catching (do
    match ← Mapping.entries? v with
    | some t => t.toList.forM fun x => addName e callee a x.key x.value
    | none =>
      let keys ← Attribute.get e v "keys"
      for k in ← Mapping.keysOf e v keys do
        addName e callee a k (← Item.get e v k)) fun x => do
    if ← Typing.isError x "AttributeError" then
      Exec.typeError ((← Call.text e callee) ++ " argument after ** must be a mapping, not " ++
        (← Typing.word v))
    else throw (.raised x)

/-- The arguments by place that a value gives. -/
def places (e : Engine) (callee v : Value) : Exec (List Value) := do
  match v with
  | .tuple items => pure items
  | v =>
    if ← hasItems v then Iterate.collect e v
    else
      Exec.typeError ((← Call.text e callee) ++ " argument after * must be an iterable, not " ++
        (← Typing.word v))

/-- The arguments by name in a dictionary. -/
def names (v : Value) : Exec Fields := do
  match ← Exec.data? v with
  | some (.dict t) =>
    t.toList.mapM fun x => do
      match ← Typing.unboxed x.key with
      | .str n => pure (n, x.value)
      | _ => Exec.typeError "keywords must be strings"
  | _ => pure []

/-- Arguments in the order in which they are given, apart by the way in which they are given. -/
def parted : List Passing → List Value → List Value × Fields
  | .named n :: ps, v :: vs =>
    let (places, names) := parted ps vs
    (places, (n, v) :: names)
  | .plain :: ps, v :: vs =>
    let (places, names) := parted ps vs
    (v :: places, names)
  | _, _ => ([], [])

end Exemplar.Machine.Spread
