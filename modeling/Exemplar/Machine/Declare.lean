import Exemplar.Machine.Call
import Exemplar.Machine.Compile.Standing
import Exemplar.Machine.Item

/-
  The variables that a frame sees: its own, those that it shares with functions inside or around it,
  the names of a file or of the body of a class, the globals, and what needs no declaration.

  What statements make and take from elsewhere: functions, classes, imported modules and their
  names, hints; and functions that look at the frame that calls them.
-/

namespace Exemplar.Machine.Variable

/-! ### Refusals -/

def unboundLocal {α : Type} (name : String) : Exec α :=
  Exec.raise "UnboundLocalError"
    ("cannot access local variable '" ++ name ++ "' where it is not associated with a value")

/-- Refuses a name; the error knows it. -/
def nameError {α : Type} (name text : String) : Exec α :=
  Exec.raiseWith "NameError" [.str text] [("name", .str name)]

def unboundFree {α : Type} (name : String) : Exec α :=
  nameError name ("cannot access free variable '" ++ name ++
    "' where it is not associated with a value in enclosing scope")

def undefined {α : Type} (name : String) : Exec α :=
  nameError name ("name '" ++ name ++ "' is not defined")

/-- Refuses a shared variable without a value. -/
def unbound {α : Type} (free : Bool) (name : String) : Exec α :=
  if free then unboundFree name else unboundLocal name

/-! ### Names -/

/-- What a text stands for in the data of a dictionary. -/
def entry? (d : Data) (name : String) : Option Value :=
  match d with
  | .dict t => t.getText? name
  | _ => none

/-- What a name stands for in the dictionary at an address. -/
def inDict? (a : Nat) (name : String) : Exec (Option Value) := do
  return entry? (← Exec.dataAt a) name

/-- The value of a global, or of a name that needs no declaration. -/
def global (name : String) : Exec Value := do
  match ← inDict? globals name with
  | some v => pure v
  | none =>
    match ← inDict? builtins name with
    | some v => pure v
    | none => undefined name

/-- Whether an object is a dictionary of no declared class. -/
def isPlainDict (o : Object) : Bool :=
  match o.data, o.cls with
  | .dict _, .kind _ => true
  | _, _ => false

/-- What a name stands for among the names of a file or of the body of a class, which may be any
mapping. -/
def named? (e : Engine) (f : Frame) (name : String) : Exec (Option Value) := do
  let names := f.names.getD globals
  let o ← Exec.object names
  if isPlainDict o then return entry? o.data name
  Typing.absorbing "KeyError" (Item.get e (.object names) (.str name))

def putInDict (a : Nat) (name : String) (v : Value) : Exec Unit :=
  Exec.modifyData a fun
    | .dict t => .dict (t.putText name v)
    | d => d

def putName (e : Engine) (f : Frame) (name : String) (v : Value) : Exec Unit := do
  let names := f.names.getD globals
  if isPlainDict (← Exec.object names) then putInDict names name v
  else Item.put e (.object names) (.str name) v

/-- Takes a name out of a dictionary; whether it was there. -/
def eraseFromDict (a : Nat) (name : String) : Exec Bool := do
  match ← Exec.dataAt a with
  | .dict t =>
    match t.findText? name with
    | some i =>
      Exec.setData a (.dict (t.eraseAt i))
      pure true
    | none => pure false
  | _ => pure false

def eraseName (e : Engine) (f : Frame) (name : String) : Exec Unit := do
  let names := f.names.getD globals
  if isPlainDict (← Exec.object names) then
    if !(← eraseFromDict names name) then undefined name
  else
    match ← Typing.absorbing "KeyError" (Item.erase e (.object names) (.str name)) with
    | some () => pure ()
    | none => undefined name

/-! ### Places -/

/-- The address of a shared variable. -/
def address (f : Frame) (slot : Nat) : Nat := f.cells.getD slot 0

def load (e : Engine) (f : Frame) (place : Place) (name : String) : Exec Value := do
  match place with
  | .own i =>
    match f.locals.getD i none with
    | some v => pure v
    | none => unboundLocal name
  | .cell i free =>
    match ← Exec.cell (address f i) with
    | some v => pure v
    | none => unbound free name
  | .global => global name
  | .name =>
    match ← named? e f name with
    | some v => pure v
    | none => global name
  | .nameOrCell i =>
    match ← named? e f name with
    | some v => pure v
    | none =>
      match ← Exec.cell (address f i) with
      | some v => pure v
      | none => unboundFree name

/-- The frame in which a variable has a value. -/
def store (e : Engine) (f : Frame) (place : Place) (name : String) (v : Value) : Exec Frame := do
  match place with
  | .own i => pure { f with locals := f.locals.setIfInBounds i (some v) }
  | .cell i _ | .nameOrCell i =>
    Exec.setCell (address f i) (some v)
    pure f
  | .global =>
    putInDict globals name v
    pure f
  | .name =>
    putName e f name v
    pure f

/-- The frame in which a variable has no value. -/
def delete (e : Engine) (f : Frame) (place : Place) (name : String) : Exec Frame := do
  match place with
  | .own i =>
    if (f.locals.getD i none).isNone then unboundLocal name
    pure { f with locals := f.locals.setIfInBounds i none }
  | .cell i free =>
    if (← Exec.cell (address f i)).isNone then unbound free name
    Exec.setCell (address f i) none
    pure f
  | .nameOrCell i =>
    if (← Exec.cell (address f i)).isNone then unboundFree name
    Exec.setCell (address f i) none
    pure f
  | .global =>
    if !(← eraseFromDict globals name) then undefined name
    pure f
  | .name =>
    eraseName e f name
    pure f

/-! ### All variables of a frame -/

/-- The names of the variables of a frame with their values, those without one left out. -/
def fields (f : Frame) : Exec Fields := do
  let vars := f.owner.vars
  let shared := vars.cells ++ vars.free
  let ofCell (n : String) : Exec (Option Value) :=
    match shared.idxOf? n with
    | some i => Exec.cell (address f i)
    | none => pure none
  let own ← vars.locals.zipIdx.filterMapM fun (n, i) => do
    let v ← if vars.cells.contains n then ofCell n else pure (f.locals.getD i none)
    return v.map fun v => (n, v)
  let rest ← (shared.filter fun n => !vars.locals.contains n).filterMapM fun n => do
    return (← ofCell n).map fun v => (n, v)
  pure (own ++ rest)

end Exemplar.Machine.Variable

namespace Exemplar.Machine.Declare

/-! ### Functions and classes -/

/-- The variables around that code takes from a frame. -/
def closure (f : Frame) (captured : List Nat) : Array Nat :=
  (captured.map (Variable.address f)).toArray

/-- A function of code; `values` are its defaults by place, those by name only and its hints. -/
def function (f : Frame) (code : FunctionCode) (defaults : Nat)
    (keywordDefaults hints : List String) (captured : List Nat) (values : List Value) :
    Exec Value := do
  let named := values.drop defaults
  let shown := hints.zip (named.drop keywordDefaults.length)
  let hints ← if shown.isEmpty then pure none else some <$> Typing.dictOf shown
  let module ← Variable.inDict? globals "__name__"
  Exec.new .function (.function
    { code := code
      name := code.name
      qualified := code.qualified
      closure := closure f captured
      defaults := values.take defaults
      keywordDefaults := keywordDefaults.zip named
      doc := code.doc
      moduleName := module.getD .none
      hints := hints })

/-- A class whose body is code: that runs with names of its own, and functions inside it find the
class in a cell. -/
def classOf (e : Engine) (f : Frame) (name : String) (body : FunctionCode) (captured : List Nat)
    (bases : List Value) (named : Fields) : Exec Value := do
  let opening ← Classes.opening e name bases named
  let vars := body.vars
  let own ← vars.cells.mapM fun _ => Exec.newCell none
  let shell := (vars.cells.idxOf? Compile.className).bind fun i => own[i]?
  let inner : Frame :=
    { code := body.body
      cells := own.toArray ++ closure f captured
      names := match opening.space with
        | .object a => some a
        | _ => none
      owner := body }
  let _ ← e.run inner
  if let some i := shell then
    Variable.putName e inner "__classcell__" (← Exec.new .cell (.cell i))
  Classes.finish e name opening shell

/-! ### Modules -/

/-- The module that an import gets from the function that imports modules. -/
def module (e : Engine) (f : Frame) (name : String) (level : Nat) (names : Option (List String)) :
    Exec Value := do
  match ← Variable.inDict? builtins "__import__" with
  | none => Exec.raise "ImportError" "__import__ not found"
  | some g =>
    let own := (f.names.map Value.object).getD .none
    let wanted := (names.map fun ns => Value.tuple (ns.map .str)).getD .none
    e.call g [.str name, .object globals, own, wanted, .int level] []

/-- What a module has by a name. -/
def nameOf (e : Engine) (m : Value) (name : String) : Exec Value := do
  match ← Attribute.get? e m name with
  | some v => pure v
  | none =>
    let owner ← match ← Attribute.get? e m "__name__" with
      | some (.str n) => pure (some n)
      | _ => pure none
    let path := owner.elim "" fun n => n ++ "." ++ name
    match (← get).modules.lookup path with
    | some v => pure v
    | none =>
      let word := (owner.map Text.quote).getD "'<unknown module name>'"
      let text := "cannot import name '" ++ name ++ "' from " ++ word ++ " (unknown location)"
      Exec.raiseWith "ImportError" [.str text]
        [("msg", .str text), ("name", (owner.map Value.str).getD .none)]

/-- The names that a module gives to those who take all of them. -/
def allNames (e : Engine) (m : Value) : Exec (List Value) := do
  match ← Attribute.get? e m "__all__" with
  | some names => Iterate.collect e names
  | none =>
    match ← Attribute.get? e m "__dict__" with
    | none =>
      Exec.raise "ImportError" "from-import-* object has no __dict__ and no __all__"
    | some d =>
      let names ← Iterate.collect e (← e.call (← Attribute.get e d "keys") [] [])
      return names.filter fun
        | .str s => !s.startsWith "_"
        | _ => true

/-- Binds all names that a module gives. -/
def importAll (e : Engine) (f : Frame) (m : Value) : Exec Unit := do
  for n in ← allNames e m do
    match n with
    | .str s => do Variable.putName e f s (← Attribute.get e m s)
    | v =>
      let owner ← Show.plain e (← Attribute.get e m "__name__")
      Exec.typeError ("Item in " ++ owner ++ ".__all__ must be str, not " ++ (← Typing.word v))

/-! ### Hints -/

/-- The name of the dictionary of hints. -/
def hintsName : String := "__annotations__"

def setupHints (e : Engine) (f : Frame) : Exec Unit := do
  if (← Variable.named? e f hintsName).isNone then
    Variable.putName e f hintsName (← Exec.new .dict (.dict {}))

def storeHint (e : Engine) (f : Frame) (name : String) (hint : Value) : Exec Unit := do
  Item.put e (← Variable.load e f .name hintsName) (.str name) hint

/-! ### The frame that calls -/

/-- The names that a frame sees as its own, as a dictionary. -/
def locals (f : Frame) : Exec Value := do
  match f.names with
  | some a => pure (.object a)
  | none => Typing.dictOf (← Variable.fields f)

/-- What the class around a method extends, as seen from the first argument of the method. -/
def super (f : Frame) : Exec Value := do
  let refuse (text : String) : Exec Value := Exec.raise "RuntimeError" text
  let vars := f.owner.vars
  match f.names, f.owner.signature.positional with
  | none, first :: _ =>
    let self ← match vars.cells.idxOf? first with
      | some i => Exec.cell (Variable.address f i)
      | none => pure (f.locals.getD 0 none)
    match self, vars.free.idxOf? Compile.className with
    | none, _ => refuse "super(): arg[0] deleted"
    | _, none => refuse "super(): __class__ cell not found"
    | some self, some i =>
      match ← Exec.cell (Variable.address f (vars.cells.length + i)) with
      | none => refuse "super(): empty __class__ cell"
      | some cls =>
        if !(← Typing.isType cls) then
          return ← refuse ("super(): __class__ is not a type (" ++ (← Typing.word cls) ++ ")")
        Exec.new .super (← Construct.super ⟨"super", "super", [cls, self], []⟩)
  | _, _ => refuse "super(): no arguments"

/-- What a function that looks at the frame that calls it gives to a call without arguments. -/
def ofFrame? (e : Engine) (f : Frame) : Value → Option (Exec Value)
  | .kind .super => some (super f)
  | .builtin "locals" | .builtin "vars" => some (locals f)
  | .builtin "dir" => some do
    let names ← Iterate.array e (← locals f)
    let list ← Exec.new .list (.list names)
    if let .object a := list then Sort.list e a .none false
    pure list
  | _ => none

end Exemplar.Machine.Declare
