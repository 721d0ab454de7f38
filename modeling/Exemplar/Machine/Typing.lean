import Exemplar.Machine.Store
import Exemplar.Text.Quoted

/-
  The types of values: the type of each value, what a type extends, what it declares by a name, and
  what such a declaration is for a value of the type.
-/

namespace Exemplar.Machine.Typing

/-- The type of a value. -/
def of : Value → Exec Value
  | .object a => do return (← Exec.object a).cls
  | .none => pure (.kind .none)
  | .ellipsis => pure (.kind .ellipsis)
  | .notImplemented => pure (.kind .notImplemented)
  | .bool _ => pure (.kind .bool)
  | .int _ => pure (.kind .int)
  | .float _ => pure (.kind .float)
  | .complex _ _ => pure (.kind .complex)
  | .str _ => pure (.kind .str)
  | .bytes _ => pure (.kind .bytes)
  | .tuple _ => pure (.kind .tuple)
  | .range _ _ _ => pure (.kind .range)
  | .slice _ _ _ => pure (.kind .slice)
  | .kind _ => pure (.kind .type)
  | .builtin _ => pure (.kind .builtin)
  | .native k n => pure (.kind (match k.role? n with
      | some .method => .descriptor
      | some (.field _) => .fieldDescriptor
      | some .classMethod => .classMethodDescriptor
      | some .staticMethod => .builtin
      | _ => .slotWrapper))
  | .method _ k n => pure (.kind (if k.role? n == some .slot then .methodWrapper else .builtin))
  | .bound _ _ => pure (.kind .method)
  | .generic _ _ => pure (.kind .generic)
  | .union _ => pure (.kind .union)

/-- The class that a value is, if it is a declared one. -/
def class? (t : Value) : Exec (Option Class) := do
  match t with
  | .object a =>
    match ← Exec.dataAt a with
    | .classOf c => pure (some c)
    | _ => pure none
  | _ => pure none

/-- Whether a value is a type. -/
def isType : Value → Exec Bool
  | .kind _ => pure true
  | t => do return (← class? t).isSome

/-- The name of a type as messages have it. -/
def name (t : Value) : Exec String := do
  match t with
  | .kind k => pure k.word
  | t => return (← class? t).elim "object" (·.name)

/-- The name of a type without its module. -/
def shortName (t : Value) : Exec String := do
  match t with
  | .kind k => pure k.name
  | t => return (← class? t).elim "object" (·.name)

/-- The name of a type with those of the functions and classes around it. -/
def qualifiedName (t : Value) : Exec String := do
  match t with
  | .kind k => pure k.name
  | t => return (← class? t).elim "object" (·.qualified)

/-- The name of the type of a value. -/
def word (v : Value) : Exec String := do name (← of v)

/-- A type and those that it extends, in the order in which they are searched. -/
def lineage (t : Value) : Exec (List Value) := do
  match t with
  | .kind k => pure (k.lineage.map .kind)
  | t => return (← class? t).elim [] (·.lineage)

/-- The type that decides what values of a type hold. -/
def solid (t : Value) : Exec Kind := do
  match t with
  | .kind k => pure k
  | t => return (← class? t).elim .object (·.solid)

/-- Whether a type is another one or extends it. -/
def extends? (t other : Value) : Exec Bool := do
  match t, other with
  | .kind a, .kind b => pure (a.extends? b)
  | t, other => if t.same other then pure true else return (← lineage t).any (·.same other)

/-- Whether a value is of a type. -/
def isOf (v t : Value) : Exec Bool := do extends? (← of v) t

/-- Whether a value is of a type that is there without a declaration, or of one that extends it. -/
def isA (v : Value) (k : Kind) : Exec Bool := do
  match ← of v with
  | .kind j => pure (j.extends? k)
  | t => extends? t (.kind k)

/-- Whether a value is an exception of a class. -/
def isError (v : Value) (cls : String) : Exec Bool := isA v (.exception cls)

/-- Whether a value is a type of exceptions. -/
def isExceptionType (v : Value) : Exec Bool := do
  if ← isType v then extends? v (Value.exceptionType "BaseException") else pure false

/-- The value that an instance of a class holds if the class extends a type whose values cannot
change, else the value itself. -/
def unboxed (v : Value) : Exec Value := do
  match v with
  | .object a =>
    match ← Exec.dataAt a with
    | .boxed w => pure w
    | _ => pure v
  | v => pure v

/-! ### Names -/

/-- The value that an object has by a name of its own. -/
def ownName? (a : Nat) (name : String) : Exec (Option Value) := do
  match (← Exec.object a).names with
  | .own fields => pure (fields.lookup name)
  | .shared d =>
    match ← Exec.dataAt d with
    | .dict t => pure (t.getText? name)
    | _ => pure none
  | .absent => pure none

/-- Sets a name of an object. -/
def putName (a : Nat) (name : String) (v : Value) : Exec Unit := do
  match (← Exec.object a).names with
  | .own fields => Exec.setNames a (.own (fields.put name v))
  | .shared d =>
    Exec.modifyData d fun
      | .dict t => .dict (t.putText name v)
      | o => o
  | .absent => Exec.setNames a (.own [(name, v)])

/-- Takes a name from an object. -/
def eraseName (a : Nat) (name : String) : Exec Unit := do
  match (← Exec.object a).names with
  | .own fields => Exec.setNames a (.own (fields.erase name))
  | .shared d =>
    Exec.modifyData d fun
      | .dict t =>
        match t.findText? name with
        | some i => .dict (t.eraseAt i)
        | none => .dict t
      | o => o
  | .absent => pure ()

/-- All names of an object with their values. -/
def namesOf (a : Nat) : Exec Fields := do
  match (← Exec.object a).names with
  | .own fields => pure fields
  | .shared d =>
    match ← Exec.dataAt d with
    | .dict t => pure t.toFields
    | _ => pure []
  | .absent => pure []

/-- The dictionary of the names of an object; from then on the program can change them by it. -/
def dictionary (a : Nat) : Exec Value := do
  match (← Exec.object a).names with
  | .shared d => pure (.object d)
  | _ =>
    let fields ← namesOf a
    match ← Exec.new .dict (.dict (.ofFields fields)) with
    | .object d =>
      Exec.setNames a (.shared d)
      pure (.object d)
    | v => pure v

/-- A dictionary with names of its own. -/
def dictOf (fields : Fields) : Exec Value := Exec.new .dict (.dict (.ofFields fields))

/-! ### Declarations -/

def stubDoc : String := "Inert stand-in for a module user code is not allowed to import."

/-- What a type that is there without a declaration declares by a name. -/
def ofKind? (k : Kind) (name : String) : Option Value :=
  match k.role? name with
  | some .absent => some .none
  | some _ => some (.native k name)
  | none =>
    if name == "__doc__" then some (if k == .stub then .str stubDoc else .none)
    else if name == "__module__" && k == .stub then some (.str "__main__")
    else none

/-- What the first type of a lineage that declares a name declares it as. -/
def find? (name : String) : List Value → Exec (Option Value)
  | [] => pure none
  | .kind k :: r =>
    match ofKind? k name with
    | some v => pure (some v)
    | none => find? name r
  | .object a :: r => do
    match ← ownName? a name with
    | some v => pure (some v)
    | none => find? name r
  | _ :: r => find? name r

/-- What a type declares a name as, or those that it extends. -/
def declared? (t : Value) (name : String) : Exec (Option Value) := do find? name (← lineage t)

/-- What the type of a value declares a name as. -/
def special? (v : Value) (name : String) : Exec (Option Value) := do declared? (← of v) name

/-- What a program, and not a type that is there without it, declares a name as for values of a
type. -/
def ofProgram? (t : Value) (name : String) : Exec (Option Value) := do
  match t with
  | .kind _ => pure none
  | t =>
    match ← declared? t name with
    | some (.native _ _) => pure none
    | r => pure r

/-- How an attribute of a class takes part in that of an instance. -/
inductive Binding
  | plain
  | function
  | staticMethod (f : Value)
  | classMethod (f : Value)
  | property (p : Property)
  | slot (cls : Value) (name : String)
  /-- By a method that a program declares. -/
  | byMethod (get : Value)
  | native (k : Kind) (name : String) (role : Role)

/-- How a value takes part as an attribute of a class. -/
def bindingOf (attr : Value) : Exec Binding := do
  match attr with
  | .native k n => pure (.native k n ((k.role? n).getD .method))
  | .object a =>
    let o ← Exec.object a
    let byData : Exec Binding := do
      match o.data with
      | .function _ => pure .function
      | .property p => pure (.property p)
      | .wrapper f =>
        pure (if (← solid o.cls) == .staticMethod then .staticMethod f else .classMethod f)
      | .slot c n => pure (.slot c n)
      | _ => pure .plain
    match o.cls with
    | .kind _ => byData
    | t =>
      match ← ofProgram? t "__get__" with
      | some g => pure (.byMethod g)
      | none => byData
  | _ => pure .plain

/-- Refuses what a property has no function for. -/
def refuseProperty {α : Type} (p : Property) (self : Value) (part : String) : Exec α := do
  let owner ← qualifiedName (← of self)
  let name := match p.name with
    | some n => " " ++ Text.quote n
    | none => ""
  Exec.raise "AttributeError"
    ("property" ++ name ++ " of " ++ Text.quote owner ++ " object has no " ++ part)

/-- The value of a slot of an instance. -/
def slotValue (self cls : Value) (name : String) : Exec Value := do
  if !(← isOf self cls) then
    Exec.typeError ("descriptor '" ++ name ++ "' for '" ++ (← Typing.name cls) ++
      "' objects doesn't apply to a '" ++ (← word self) ++ "' object")
  match self, name with
  | .object a, "__dict__" => dictionary a
  | .object _, "__weakref__" => pure .none
  | _, _ =>
  match (← Exec.object? self).bind fun o => o.kept.lookup name with
  | some v => pure v
  | none =>
    Exec.raiseWith "AttributeError" [.str ("'" ++ (← word self) ++ "' object has no attribute '" ++
      name ++ "'")] [("name", .str name), ("obj", self)]

/-- What an attribute of a class is for a value of it. -/
def bind (e : Engine) (attr self cls : Value) : Exec Value := do
  match ← bindingOf attr with
  | .plain => pure attr
  | .function => pure (.bound attr self)
  | .staticMethod f => pure f
  | .classMethod f =>
    match ← bindingOf f with
    | .function | .plain => pure (.bound f cls)
    | .property p => e.call p.get [cls] []
    | _ => pure (.bound f cls)
  | .property p =>
    if p.get.isNone then refuseProperty p self "getter" else e.call p.get [self] []
  | .slot c n => slotValue self c n
  | .byMethod g => e.call g [attr, self, cls] []
  | .native k n role =>
    match role with
    | .field _ => e.call attr [self] []
    | .classMethod => pure (.method cls k n)
    | .staticMethod => pure attr
    | _ => pure (.method self k n)

/-- What an attribute of a class is for the class itself. -/
def bindToClass (e : Engine) (attr cls : Value) : Exec Value := do
  match ← bindingOf attr with
  | .staticMethod f => pure f
  | .classMethod f =>
    match ← bindingOf f with
    | .property p => e.call p.get [cls] []
    | _ => pure (.bound f cls)
  | .byMethod g => e.call g [attr, .none, cls] []
  | .native k n .classMethod => pure (.method cls k n)
  | _ => pure attr

/-- Whether an attribute of a class goes before what an instance has by the same name. -/
def isDecisive (attr : Value) : Exec Bool := do
  match attr with
  | .native k n =>
    match k.role? n with
    | some (.field _) => pure true
    | _ => pure false
  | .object a =>
    let o ← Exec.object a
    match o.data, o.cls with
    | .function _, _ => pure false
    | .property _, _ | .slot _ _, _ => pure true
    | _, .kind _ => pure false
    | _, t =>
      if (← ofProgram? t "__set__").isSome then pure true
      else return (← ofProgram? t "__delete__").isSome
  | _ => pure false

/-- Calls what the type of a value declares by a name, if it declares it. -/
def callSpecial? (e : Engine) (v : Value) (name : String) (args : List Value) :
    Exec (Option Value) := do
  let t ← of v
  match ← declared? t name with
  | none => pure none
  | some attr =>
    match ← bindingOf attr with
    | .function => some <$> e.call attr (v :: args) []
    | .native k n _ => some <$> e.call (.method v k n) args []
    | _ => some <$> (do e.call (← bind e attr v t) args [])

/-- The same, but only for what a program declares. -/
def callProgram? (e : Engine) (v : Value) (name : String) (args : List Value) :
    Exec (Option Value) := do
  match ← of v with
  | .kind _ => pure none
  | t =>
    match ← ofProgram? t name with
    | none => pure none
    | some attr =>
      match ← bindingOf attr with
      | .function => some <$> e.call attr (v :: args) []
      | _ => some <$> (do e.call (← bind e attr v t) args [])

/-- The result of a computation, or nothing if it raises an exception of a class. -/
def absorbing {α : Type} (cls : String) (m : Exec α) : Exec (Option α) :=
  Exec.catching (some <$> m) fun x => do
    if ← isError x cls then pure none else throw (.raised x)

end Exemplar.Machine.Typing
