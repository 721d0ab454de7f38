import Exemplar.Machine.Field

/-
  Attributes. What the type of a value declares decisively goes first, then what the value has by a
  name of its own, then what the type declares besides. The attributes of a type are those that it
  or a type that it extends declares, seen without an instance.
-/

namespace Exemplar.Machine.Attribute

/-! ### Refusals -/

def missing {α : Type} (v : Value) (name : String) : Exec α := do
  Exec.raise "AttributeError"
    ("'" ++ (← Typing.word v) ++ "' object has no attribute '" ++ name ++ "'")

def missingOfType {α : Type} (t : Value) (name : String) : Exec α := do
  Exec.raise "AttributeError"
    ("type object '" ++ (← Typing.name t) ++ "' has no attribute '" ++ name ++ "'")

/-- Refuses to change a type that no program declares. -/
def refuseFixed {α : Type} (k : Kind) (name : String) : Exec α := do
  Exec.typeError ("cannot set '" ++ name ++ "' attribute of immutable type '" ++ k.word ++ "'")

/-! ### Getting -/

/-- What an attribute of a class is for a value of it. -/
def bound (e : Engine) (attr self cls : Value) : Exec Value := do
  match attr with
  | .native k n =>
    match k.role? n with
    | some (.field _) => Field.get self k n
    | _ => Typing.bind e attr self cls
  | _ => Typing.bind e attr self cls

/-- An attribute by the rule for values that are no types. -/
def ordinary? (e : Engine) (v : Value) (name : String) : Exec (Option Value) := do
  let t ← Typing.of v
  let declared ← Typing.declared? t name
  let isDecisive ← match declared with
    | some attr => Typing.isDecisive attr
    | none => pure false
  let own ← match v with
    | .object a => if isDecisive then pure none else Typing.ownName? a name
    | _ => pure none
  match own, declared with
  | some w, _ => pure (some w)
  | none, some attr => some <$> bound e attr v t
  | none, none => pure none

def ordinary (e : Engine) (v : Value) (name : String) : Exec Value := do
  match ← ordinary? e v name with
  | some w => pure w
  | none => missing v name

/-- An attribute of a type. -/
def ofType (e : Engine) (t : Value) (name : String) : Exec Value := do
  let m ← Typing.of t
  let ofMeta ← Typing.declared? m name
  let isDecisive ← match ofMeta with
    | some attr => Typing.isDecisive attr
    | none => pure false
  let own ← if isDecisive then pure none else Typing.declared? t name
  match own, ofMeta with
  | some attr, _ => Typing.bindToClass e attr t
  | none, some attr => bound e attr t m
  | none, none => missingOfType t name

/-- The types that are searched behind a type for a value whose type is `searched`. -/
def behind (after searched : Value) : Exec (List Value) := do
  return ((← Typing.lineage searched).dropWhile fun t => !t.same after).drop 1

/-- An attribute of what a class extends. -/
def ofSuper (e : Engine) (v after self searched : Value) (name : String) : Exec Value := do
  if name == "__class__" || self.isNone then return ← ordinary e v name
  match ← Typing.find? name (← behind after searched) with
  | some attr =>
    if self.same searched then Typing.bindToClass e attr searched
    else Typing.bind e attr self searched
  | none => ordinary e v name

def ofModule (e : Engine) (v : Value) (a : Nat) (name : String) : Exec Value := do
  match ← ordinary? e v name with
  | some w => pure w
  | none =>
    match ← Typing.ownName? a "__name__" with
    | some (.str m) =>
      Exec.raise "AttributeError" ("module '" ++ m ++ "' has no attribute '" ++ name ++ "'")
    | _ => Exec.raise "AttributeError" ("module has no attribute '" ++ name ++ "'")

/-- What a type with arguments has for itself and not from its origin. -/
def ofAlias : List String :=
  ["__class__", "__origin__", "__args__", "__unpacked__", "__parameters__", "__mro_entries__",
   "__reduce_ex__", "__reduce__", "__copy__", "__deepcopy__"]

/-- A stand-in for a module by its name. -/
def standin (name : Value) : Exec Value :=
  Exec.newObject { cls := .kind .stub, names := .own [("_name", name)] }

/-- What a stand-in gives for a name that it does not have: another stand-in with a longer name.
Names between double underscores are refused. -/
def ofStandin (e : Engine) (v : Value) (name : String) : Exec Value := do
  if name.startsWith "__" && name.endsWith "__" then Exec.raise "AttributeError" name
  match ← ordinary? e v "_name" with
  | some own => standin (.str ((← Show.plain e own) ++ "." ++ name))
  | none => Exec.raise "RecursionError" "maximum recursion depth exceeded"

/-- An attribute by the rule of the type that a value is of, whatever programs declare. -/
def plain (e : Engine) (v : Value) (name : String) : Exec Value := do
  match v with
  | .kind _ => ofType e v name
  | .generic origin _ =>
    if ofAlias.contains name then ordinary e v name else ofType e origin name
  | .bound f _ =>
    match ← ordinary? e v name with
    | some w => pure w
    | none => ordinary e f name
  | .object a =>
    match ← Exec.dataAt a with
    | .classOf _ => ofType e v name
    | .super after self searched => ofSuper e v after self searched name
    | .module _ => ofModule e v a name
    | _ => ordinary e v name
  | v => ordinary e v name

/-- An attribute by what a class declares for all names, else by the rule of its type, else by what
the class declares for names that are missing. -/
def asked (e : Engine) (v : Value) (name : String) : Exec Value := do
  let t ← Typing.of v
  let first : Exec Value := do
    match ← Typing.ofProgram? t "__getattribute__" with
    | some _ =>
      return (← Typing.callSpecial? e v "__getattribute__" [.str name]).getD .none
    | none => plain e v name
  Exec.catching first fun x => do
    if !(← Typing.isError x "AttributeError") then throw (.raised x)
    match ← Typing.declared? t "__getattr__" with
    | some (.native .stub _) => ofStandin e v name
    | some _ => return (← Typing.callSpecial? e v "__getattr__" [.str name]).getD .none
    | none => throw (.raised x)

/-- An attribute of a value. An error about it says what was asked for, unless it does already. -/
def get (e : Engine) (v : Value) (name : String) : Exec Value :=
  Exec.catching (asked e v name) fun x => do
    if ← Typing.isError x "AttributeError" then
      Exec.modifyIncident x fun i =>
        if (i.parts.lookup "name").isSome || (i.parts.lookup "obj").isSome then i
        else { i with parts := i.parts ++ [("name", .str name), ("obj", v)] }
    throw (.raised x)

/-- An attribute, if there is one. -/
def get? (e : Engine) (v : Value) (name : String) : Exec (Option Value) :=
  Typing.absorbing "AttributeError" (get e v name)

/-! ### Setting and deleting -/

/-- Whether an object can have names of its own. -/
def canHaveNames (o : Object) : Exec Bool := do
  match o.cls, o.data with
  | _, .classOf _ => pure true
  | .kind k, _ =>
    pure (match k with
      | .function | .exception _ | .module | .stub | .staticMethod | .classMethod => true
      | _ => false)
  | t, _ => return (← Typing.class? t).elim false (·.hasNames)

/-- What a change of an attribute is: a new value, or none. -/
abbrev Change := Option Value

/-- Changes what an instance keeps by a slot of its class. -/
def changeSlot (v cls : Value) (name : String) (w : Change) : Exec Unit := do
  if !(← Typing.isOf v cls) then
    Exec.typeError ("descriptor '" ++ name ++ "' for '" ++ (← Typing.name cls) ++
      "' objects doesn't apply to a '" ++ (← Typing.word v) ++ "' object")
  match v, name, w with
  | .object a, "__dict__", some (.object d) =>
    match ← Exec.dataAt d with
    | .dict _ => Exec.setNames a (.shared d)
    | _ => refuseNames (.object d)
  | _, "__dict__", some w => refuseNames w
  | .object a, "__dict__", none => Exec.setNames a (.own [])
  | _, "__weakref__", _ => Field.refuseWrite .object name
  | .object a, name, some w => Exec.setKept a ((← Exec.object a).kept.put name w)
  | .object a, name, none =>
    let kept := (← Exec.object a).kept
    if (kept.lookup name).isNone then Exec.raise "AttributeError" name
    Exec.setKept a (kept.erase name)
  | _, _, _ => pure ()
where
  refuseNames (w : Value) : Exec Unit := do
    Exec.typeError ("__dict__ must be set to a dictionary, not a '" ++ (← Typing.word w) ++ "'")

/-- Takes a name from an object. -/
def eraseOwn (v : Value) (a : Nat) (name : String) : Exec Unit := do
  if (← Typing.ownName? a name).isSome then Typing.eraseName a name
  else
    let o ← Exec.object a
    match o.names, o.cls, o.data with
    | .shared _, _, _ | _, .kind _, _ | _, _, .classOf _ | _, _, .exception _ =>
      Exec.raise "AttributeError" name
    | _, _, _ => missing v name

/-- Changes an attribute by the rule that all values share. -/
def changePlainly (e : Engine) (v : Value) (name : String) (w : Change) : Exec Unit := do
  if let .kind k := v then refuseFixed k name
  let t ← Typing.of v
  let declared ← Typing.declared? t name
  let own : Exec Unit := do
    match v with
    | .object a =>
      if ← canHaveNames (← Exec.object a) then
        match w with
        | some w => Typing.putName a name w
        | none => eraseOwn v a name
      else refuse declared
    | _ => refuse declared
  match declared with
  | none => own
  | some attr =>
    match ← Typing.bindingOf attr with
    | .property p =>
      match w with
      | some w =>
        if p.set.isNone then Typing.refuseProperty p v "setter"
        let _ ← e.call p.set [v, w] []
      | none =>
        if p.erase.isNone then Typing.refuseProperty p v "deleter"
        let _ ← e.call p.erase [v] []
    | .slot c n => changeSlot v c n w
    | .native k n (.field writable) =>
      if !writable then Field.refuseWrite k n
      match w with
      | some w => Field.put e v k n w
      | none => Field.erase v k n
    | _ =>
      if ← Typing.isDecisive attr then
        let (method, args) := match w with
          | some w => ("__set__", [v, w])
          | none => ("__delete__", [v])
        match ← Typing.callProgram? e attr method args with
        | some _ => pure ()
        | none => Exec.raise "AttributeError" method
      else own
where
  refuse (declared : Option Value) : Exec Unit := do
    if declared.isNone then missing v name
    else
      Exec.raise "AttributeError"
        ("'" ++ (← Typing.word v) ++ "' object attribute '" ++ name ++ "' is read-only")

/-- Sets an attribute of a value. -/
def put (e : Engine) (v : Value) (name : String) (w : Value) : Exec Unit := do
  match ← Typing.callProgram? e v "__setattr__" [.str name, w] with
  | some _ => pure ()
  | none => changePlainly e v name (some w)

/-- Deletes an attribute of a value. -/
def erase (e : Engine) (v : Value) (name : String) : Exec Unit := do
  match ← Typing.callProgram? e v "__delattr__" [.str name] with
  | some _ => pure ()
  | none => changePlainly e v name none

end Exemplar.Machine.Attribute
