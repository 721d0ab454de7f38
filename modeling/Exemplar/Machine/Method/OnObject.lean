import Exemplar.Machine.Classes
import Exemplar.Machine.Raise
import Exemplar.Machine.Match
import Exemplar.Machine.Method.Basic

/-
  Methods that all values have, those of types, of properties and of types with arguments.

  Methods of exceptions and of groups of them.

  Methods of the stream that programs write to. What is written cannot be read back in parts.
-/

namespace Exemplar.Machine.Method.OnObject

/-! ### Names -/

/-- The names that a type itself declares. -/
def declaredBy (t : Value) : Exec (List String) := do
  match t with
  | .kind k => pure k.declared
  | .object a => return (← Typing.namesOf a).map (·.1)
  | _ => pure []

/-- The names that a type and those that it extends declare. -/
def ofLineage (t : Value) : Exec (List String) := do
  return (← (← Typing.lineage t).mapM declaredBy).flatten

/-- The names that a value has of its own. -/
def own (v : Value) : Exec (List String) := do
  match v with
  | .object a => return (← Typing.namesOf a).map (·.1)
  | _ => pure []

/-- Names as a list of texts, each once. -/
def listed (names : List String) : Exec Value := listOf (names.eraseDups.map .str)

/-! ### All values -/

/-- What a copy of a value would need besides its class. -/
def stateOf (v : Value) : Exec Value := do
  match v with
  | .object a =>
    let fields ← Typing.namesOf a
    if fields.isEmpty then pure .none else Typing.dictOf fields
  | _ => pure .none

/-- Calls a method that all values have. -/
def call (e : Engine) (k : Kind) (v : Value) (p : Passed) : Exec Value := do
  match p.short with
  | "__format__" =>
    let spec ← p.one
    match ← Typing.unboxed spec with
    | .str s => return .str (← Format.byKind e k v s)
    | w => Exec.typeError ("__format__() argument must be str, not " ++ (← Passed.word w))
  | "__dir__" =>
    p.nothing
    listed ((← own v) ++ (← ofLineage (← Typing.of v)))
  | "__sizeof__" =>
    p.nothing
    pure (.int 16)
  | "__getstate__" =>
    p.nothing
    stateOf v
  | _ => unsupported p.full

/-! ### Types -/

/-- The classes that extend a type directly. -/
def heirs (t : Value) : Exec (List Value) := do
  match ← Typing.class? t with
  | some c => pure c.heirs
  | none =>
    let objects := (← get).objects
    return (List.range objects.size).filterMap fun a =>
      match (objects.getD a default).data with
      | .classOf c => if c.bases.any (·.same t) then some (.object a) else none
      | _ => none

/-- Calls a method of a type. -/
def onType (e : Engine) (t : Value) (p : Passed) : Exec Value := do
  match p.short with
  | "mro" =>
    p.nothing
    match ← Typing.class? t with
    | some c => do listOf (t :: (← Classes.order c.bases))
    | none => do listOf (← Typing.lineage t)
  | "__subclasses__" =>
    p.nothing
    listOf (← heirs t)
  | "__instancecheck__" => return .bool (← Instance.plainly e (← p.one) t)
  | "__subclasscheck__" => return .bool (← Instance.plainlyExtends e (← p.one) t)
  | "__dir__" =>
    p.nothing
    listed (← ofLineage t)
  | _ => unsupported p.full

/-! ### Properties -/

/-- The text that a function says about itself. -/
def docOf (e : Engine) (f : Value) : Exec Value := do
  if f.isNone then pure .none else return (← Attribute.get? e f "__doc__").getD .none

/-- A property like another one with another function. The text about it goes with the function that
gives the value, unless it was given for itself. -/
def changed (e : Engine) (v : Value) (old new : Property) : Exec Value := do
  let fromGetter := !old.get.isNone && (← docOf e old.get).same old.doc
  let doc := if fromGetter then .none else old.doc
  let made ← e.call (← Typing.of v) [new.get, new.set, new.erase, doc] []
  if let .object a := made then
    Exec.modifyData a fun
      | .property q => .property { q with name := old.name }
      | d => d
  pure made

/-- Calls a method of a property. -/
def onProperty (e : Engine) (v : Value) (old : Property) (p : Passed) : Exec Value := do
  match p.short with
  | "getter" => do changed e v old { old with get := ← p.one }
  | "setter" => do changed e v old { old with set := ← p.one }
  | "deleter" => do changed e v old { old with erase := ← p.one }
  | "__set_name__" =>
    if p.args.length != 2 then
      Exec.typeError ("__set_name__() takes 2 positional arguments but " ++
        toString p.args.length ++ " were given")
    match v, p.arg 1 with
    | .object a, .str name => Exec.setData a (.property { old with name := some name })
    | _, _ => pure ()
    pure .none
  | _ => unsupported p.full

/-! ### Types with arguments and alternatives -/

/-- Calls a method of a type with arguments. -/
def onGeneric (origin : Value) (p : Passed) : Exec Value := do
  match p.short with
  | "__mro_entries__" => pure (.tuple [origin])
  | "__instancecheck__" => Instance.refuseGeneric "isinstance" false
  | "__subclasscheck__" => Instance.refuseGeneric "issubclass" false
  | _ => unsupported p.full

/-- Calls a method of a type that is one of several. -/
def onUnion (e : Engine) (members : List Value) (p : Passed) : Exec Value := do
  let v ← p.one
  match p.short with
  | "__instancecheck__" =>
    return .bool (← Instance.amongAll "isinstance" members fun t =>
      Instance.isOf e Instance.depth v t)
  | "__subclasscheck__" =>
    if !(← Typing.isType v) then Exec.typeError "issubclass() arg 1 must be a class"
    return .bool (← Instance.amongAll "issubclass" members fun t =>
      Instance.extends? e Instance.depth v t)
  | _ => unsupported p.full

/-! ### What a type declares for itself and the types that extend it -/

/-- Calls a method that is for a type as a whole. -/
def onClass (cls : Value) (p : Passed) : Exec Value := do
  match p.short with
  | "__init_subclass__" =>
    let full := (← Typing.qualifiedName cls) ++ ".__init_subclass__"
    Passed.nothing { p with full := full }
    pure .none
  | "__subclasshook__" => pure .notImplemented
  | "__prepare__" => Typing.dictOf []
  | "__class_getitem__" => return .generic cls (Item.typeArguments (← p.one))
  | "__getformat__" => pure (.str "IEEE, little-endian")
  | _ => unsupported p.full

end Exemplar.Machine.Method.OnObject

namespace Exemplar.Machine.Method.OnException

/-- Adds a note to an exception. -/
def addNote (e : Engine) (v note : Value) : Exec Unit := do
  match ← Typing.unboxed note with
  | .str _ => pure ()
  | w => Exec.typeError ("note must be a str, not '" ++ (← Typing.word w) ++ "'")
  match ← Attribute.get? e v "__notes__" with
  | none => do Attribute.put e v "__notes__" (← listOf [note])
  | some notes =>
    match notes, ← Exec.data? notes with
    | .object a, some (.list items) => Exec.setData a (.list (items.push note))
    | _, _ => Exec.typeError "Cannot add note: __notes__ is not a list"

/-- What makes a copy of an exception. -/
def reduced (v : Value) : Exec Value := do
  let cls ← Typing.of v
  let args := .tuple ((← Exec.incident? v).elim [] (·.args))
  match v with
  | .object a =>
    if (← Typing.namesOf a).isEmpty then pure (.tuple [cls, args])
    else return .tuple [cls, args, ← Typing.dictionary a]
  | _ => pure (.tuple [cls, args])

/-- Calls a method of an exception. -/
def call (e : Engine) (v : Value) (p : Passed) : Exec Value := do
  match p.short with
  | "with_traceback" =>
    Field.put e v (.exception "BaseException") "__traceback__" (← p.one)
    pure v
  | "add_note" =>
    addNote e v (← p.one)
    pure .none
  | "__reduce__" =>
    p.nothing
    reduced v
  | "__setstate__" =>
    let state ← p.one
    match ← Exec.data? state with
    | some (.dict t) =>
      for (n, w) in t.toFields do
        Attribute.put e v n w
    | _ => if !state.isNone then Exec.typeError "state is not a dictionary"
    pure .none
  | _ => unsupported p.full

/-- Calls a method of a group of exceptions. -/
def onGroup (e : Engine) (v : Value) (p : Passed) : Exec Value := do
  let w ← p.one
  match p.short with
  | "derive" =>
    let message := ((← Exec.incident? v).bind fun x => x.parts.lookup "message").getD .none
    e.call (Value.exceptionType "BaseExceptionGroup") [message, w] []
  | "split" =>
    let (inside, outside) ← Group.split e (← Group.condition e w) Group.depth v
    pure (.pair inside outside)
  | "subgroup" =>
    return (← Group.split e (← Group.condition e w) Group.depth v).1
  | _ => unsupported p.full

end Exemplar.Machine.Method.OnException

namespace Exemplar.Machine.Method.OnStream

/-- All that has been written. -/
def written : Exec String := do return String.join (← get).output.reverse

def write (v : Value) : Exec Value := do
  match ← Typing.unboxed v with
  | .str s =>
    Exec.write s
    pure (.int s.length)
  | _ => Exec.typeError ("string argument expected, got '" ++ (← Typing.word v) ++ "'")

/-- Calls a method of the stream. -/
def call (e : Engine) (p : Passed) : Exec Value := do
  match p.short with
  | "write" => do write (← p.one)
  | "writelines" =>
    for v in ← Iterate.collect e (← p.one) do
      let _ ← write v
    pure .none
  | "getvalue" =>
    p.nothing
    return .str (← written)
  | "flush" | "close" =>
    p.nothing
    pure .none
  | "isatty" =>
    p.nothing
    pure (.bool false)
  | "writable" | "readable" | "seekable" =>
    p.nothing
    pure (.bool true)
  | "read" | "readline" => pure (.str "")
  | "tell" =>
    p.nothing
    return .int (← written).length
  | _ => unsupported p.full

end Exemplar.Machine.Method.OnStream
