import Exemplar.Machine.Mapping
import Exemplar.Machine.Show

/-
  The values that types which are there without a declaration compute by a name, such as the parts
  of a number or the arguments of an exception, and setting those of them that can be set.
-/

namespace Exemplar.Machine.Field

/-- Refuses a value that has nothing by a name. -/
def refuse {α : Type} (v : Value) (name : String) : Exec α := do
  Exec.raiseWith "AttributeError"
    [.str ("'" ++ (← Typing.word v) ++ "' object has no attribute '" ++ name ++ "'")]
    [("name", .str name), ("obj", v)]

/-- Types whose values hold what they have by a name as it is. -/
def keepsParts : Kind → Bool
  | .complex | .range | .slice | .property | .staticMethod | .classMethod | .super | .function
  | .method | .code | .generic | .union | .traceback | .exception _ => true
  | _ => false

/-- Refuses to change what a type lets only be read. -/
def refuseWrite {α : Type} (k : Kind) (name : String) : Exec α := do
  if keepsParts k then Exec.raise "AttributeError" "readonly attribute"
  else Exec.raise "AttributeError" ("attribute '" ++ name ++ "' of '" ++ k.word ++
    "' objects is not writable")

/-- A text, or a refusal that says what has to be one. -/
def textFor (what : String) (v : Value) : Exec String := do
  match ← Typing.unboxed v with
  | .str s => pure s
  | _ => Exec.typeError (what ++ " must be set to a string object")

/-! ### Types -/

/-- What a class has by a name of its own. -/
def own? (t : Value) (name : String) : Exec (Option Value) := do
  match t with
  | .object a => Typing.ownName? a name
  | _ => pure none

def ofType (t : Value) (name : String) : Exec Value := do
  match name with
  | "__name__" => return .str (← Typing.shortName t)
  | "__qualname__" => return .str (← Typing.qualifiedName t)
  | "__bases__" =>
    match t with
    | .kind k => pure (.tuple (k.bases.map .kind))
    | t => return .tuple ((← Typing.class? t).elim [] (·.bases))
  | "__base__" =>
    match t with
    | .kind k => pure ((k.bases.map Value.kind).headD .none)
    | t => do
      let c? ← Typing.class? t
      let best ← (c?.elim [] (·.bases)).findM? fun b => do
        return (← Typing.solid b).extends? (c?.elim .object (·.solid))
      pure (best.getD ((c?.elim [] (·.bases)).headD .none))
  | "__mro__" => return .tuple (← Typing.lineage t)
  | "__module__" =>
    match t with
    | .kind k => pure (.str k.moduleName)
    | t =>
      match ← own? t "__module__" with
      | some v => pure v
      | none => refuse t name
  | "__dict__" =>
    match t with
    | .kind k =>
      let fields := k.declared.filterMap fun n => (Typing.ofKind? k n).map (n, ·)
      Typing.dictOf fields
    | t => Exec.new .mappingProxy (.proxy t)
  | "__doc__" =>
    match t with
    | .kind .stub => pure (.str Typing.stubDoc)
    | .kind _ => pure .none
    | t => return (← own? t "__doc__").getD .none
  | "__annotations__" =>
    match t with
    | .object a =>
      match ← Typing.ownName? a name with
      | some v => pure v
      | none =>
        let d ← Exec.new .dict (.dict {})
        Typing.putName a name d
        pure d
    | t =>
      Exec.raiseWith "AttributeError"
        [.str ("type object '" ++ (← Typing.name t) ++ "' has no attribute '" ++ name ++ "'")]
        [("name", .str name), ("obj", t)]
  | "__abstractmethods__" =>
    match ← own? t name with
    | some v => pure v
    | none => Exec.raise "AttributeError" name
  | "__flags__" | "__basicsize__" | "__itemsize__" => pure (.int 0)
  | _ => pure .none

/-! ### Functions -/

/-- The number of parameters that take arguments by place, and so on. -/
def ofCode (c : FunctionCode) (name : String) : Value :=
  let s := c.signature
  let names (ns : List String) : Value := .tuple (ns.map .str)
  match name with
  | "co_name" => .str c.name
  | "co_qualname" => .str c.qualified
  | "co_argcount" => .int s.positional.length
  | "co_posonlyargcount" => .int s.positionalOnly.length
  | "co_kwonlyargcount" => .int s.keywordOnly.length
  | "co_varnames" =>
    names (s.all ++ c.vars.locals.filter fun n => !s.all.contains n)
  | "co_nlocals" => .int (s.all.length +
      (c.vars.locals.filter fun n => !s.all.contains n).length)
  | "co_freevars" => names c.vars.free
  | "co_cellvars" => names c.vars.cells
  | "co_flags" => .int (3 + (if s.variadic.isSome then 4 else 0) +
      (if s.keywordVariadic.isSome then 8 else 0) +
      (match c.manner with
        | .plain => 0
        | .generator => 32
        | .coroutine => 128
        | .asyncGenerator => 512))
  | "co_filename" => .str ""
  | _ => .int 1

def ofFunction (a : Nat) (f : Function) (name : String) : Exec Value := do
  match name with
  | "__name__" => pure (.str f.name)
  | "__qualname__" => pure (.str f.qualified)
  | "__defaults__" => pure (if f.defaults.isEmpty then .none else .tuple f.defaults)
  | "__kwdefaults__" =>
    if f.keywordDefaults.isEmpty then pure .none else Typing.dictOf f.keywordDefaults
  | "__annotations__" =>
    match f.hints with
    | some v => pure v
    | none =>
      let d ← Exec.new .dict (.dict {})
      Exec.setData a (.function { f with hints := some d })
      pure d
  | "__dict__" => Typing.dictionary a
  | "__code__" => Exec.new .code (.code f.code)
  | "__closure__" =>
    if f.closure.isEmpty then pure .none
    else return .tuple (← f.closure.toList.mapM fun i => Exec.new .cell (.cell i))
  | "__globals__" => pure (.object globals)
  | "__builtins__" => pure (.object builtins)
  | "__doc__" => pure f.doc
  | _ => pure f.moduleName

/-! ### Exceptions -/

/-- What exceptions of a class hold by a name. -/
def ofIncident (v : Value) (cls : String) (x : Incident) (name : String) : Exec Value := do
  match cls, name with
  | "BaseException", "args" => pure (.tuple x.args)
  | "BaseException", "__traceback__" => pure x.trace
  | "BaseException", "__context__" => pure x.context
  | "BaseException", "__cause__" => pure x.cause
  | "BaseException", "__suppress_context__" => pure (.bool x.suppressed)
  | "BaseException", _ =>
    match v with
    | .object a => Typing.dictionary a
    | _ => pure .none
  | "OSError", "characters_written" =>
    match x.parts.lookup name with
    | some w => pure w
    | none => Exec.raise "AttributeError" name
  | _, _ => pure ((x.parts.lookup name).getD .none)

/-! ### By type -/

/-- The value that a type computes by a name. -/
def get (v : Value) (k : Kind) (name : String) : Exec Value := do
  let w ← Typing.unboxed v
  let d ← Exec.data? w
  match k, w, d with
  | .object, _, _ => Typing.of v
  | .type, _, _ => ofType v name
  | .int, w, _ =>
    match w.int?, name with
    | some n, "real" | some n, "numerator" => pure (.int n)
    | some _, "imag" => pure (.int 0)
    | _, _ => pure (.int 1)
  | .float, .float x, _ => pure (if name == "real" then .float x else .float .zero)
  | .complex, .complex a b, _ => pure (.float (if name == "real" then a else b))
  | .range, .range a b c, _ =>
    pure (.int (if name == "start" then a else if name == "stop" then b else c))
  | .slice, .slice a b c, _ =>
    pure (if name == "start" then a else if name == "stop" then b else c)
  | .view _, _, some (.view a) =>
    match ← Exec.new .mappingProxy (.proxy (.object a)) with
    | p => pure p
  | .property, _, some (.property p) =>
    pure (match name with
      | "fget" => p.get
      | "fset" => p.set
      | "fdel" => p.erase
      | "__doc__" => p.doc
      | _ => .bool false)
  | .staticMethod, _, some (.wrapper f) | .classMethod, _, some (.wrapper f) =>
    match name, v with
    | "__isabstractmethod__", _ => pure (.bool false)
    | "__dict__", .object a => Typing.dictionary a
    | _, _ => pure f
  | .super, _, some (.super after self searched) =>
    pure (match name with
      | "__thisclass__" => after
      | "__self__" => self
      | _ => searched)
  | .function, .object a, some (.function f) => ofFunction a f name
  | .builtin, .builtin n, _ =>
    let short := (n.splitOn ".").getLastD n
    pure (match name with
      | "__name__" | "__qualname__" => .str short
      | "__module__" => .str (if short == n then "builtins" else (n.splitOn ".").headD "")
      | _ => .none)
  | .builtin, .native k n, _ =>
    pure (match name with
      | "__name__" => .str n
      | "__qualname__" => .str (k.name ++ "." ++ n)
      | "__self__" => .kind k
      | _ => .none)
  | .builtin, .method s k n, _ | .methodWrapper, .method s k n, _ =>
    pure (match name with
      | "__name__" => .str n
      | "__qualname__" => .str (k.name ++ "." ++ n)
      | "__self__" => s
      | _ => .none)
  | .method, .bound f s, _ =>
    match name, ← Exec.data? f with
    | "__func__", _ => pure f
    | "__self__", _ => pure s
    | _, some (.function g) => pure g.doc
    | _, _ => pure .none
  | .code, _, some (.code c) => pure (ofCode c name)
  | .cell, _, some (.cell i) =>
    match ← Exec.cell i with
    | some v => pure v
    | none => Exec.valueError "Cell is empty"
  | .generic, .generic o as, _ =>
    pure (match name with
      | "__origin__" => o
      | "__args__" => .tuple as
      | _ => .tuple [])
  | .union, .union ms, _ => pure (if name == "__args__" then .tuple ms else .tuple [])
  | .stream, _, _ => pure (if name == "closed" then .bool false else .none)
  | .module, .object a, _ | .stub, .object a, _ => Typing.dictionary a
  | .exception cls, _, some (.exception x) => ofIncident v cls x name
  | _, .native k n, _ =>
    pure (match name with
      | "__name__" => .str n
      | "__qualname__" => .str (k.name ++ "." ++ n)
      | "__objclass__" => .kind k
      | _ => .none)
  | .memberDescriptor, _, some (.slot c n) | .fieldDescriptor, _, some (.slot c n) =>
    match name with
    | "__name__" => pure (.str n)
    | "__qualname__" => return .str ((← Typing.qualifiedName c) ++ "." ++ n)
    | "__objclass__" => pure c
    | _ => pure .none
  | _, _, some (.generator g) =>
    pure (match name with
      | "__name__" => .str g.name
      | "__qualname__" => .str g.qualified
      | "gi_running" | "cr_running" | "ag_running" =>
        .bool (match g.progress with
          | .running => true
          | _ => false)
      | "gi_suspended" | "cr_suspended" =>
        .bool (match g.progress with
          | .suspended _ => true
          | _ => false)
      | _ => .none)
  | _, _, _ => pure .none

/-! ### Setting -/

/-- Sets the arguments of an exception, or something that goes with it. -/
def putIncident (e : Engine) (v : Value) (cls name : String) (w : Value) : Exec Unit := do
  match cls, name with
  | "BaseException", "args" =>
    match ← Typing.unboxed (← e.call (.kind .tuple) [w] []) with
    | .tuple items => Exec.modifyIncident v fun x => { x with args := items }
    | _ => pure ()
  | "BaseException", "__traceback__" =>
    if !w.isNone && !(← Typing.isA w .traceback) then
      Exec.typeError "__traceback__ must be a traceback or None"
    Exec.modifyIncident v fun x => { x with trace := w }
  | "BaseException", "__context__" =>
    if !w.isNone && !(← Typing.isError w "BaseException") then
      Exec.typeError "exception context must be None or derive from BaseException"
    Exec.modifyIncident v fun x => { x with context := w }
  | "BaseException", "__cause__" =>
    if !w.isNone && !(← Typing.isError w "BaseException") then
      Exec.typeError "exception cause must be None or derive from BaseException"
    Exec.modifyIncident v fun x => { x with cause := w, suppressed := true }
  | "BaseException", "__suppress_context__" =>
    match w with
    | .bool b => Exec.modifyIncident v fun x => { x with suppressed := b }
    | _ => Exec.typeError "attribute value type must be bool"
  | "BaseException", _ =>
    match v, w with
    | .object a, .object d => Exec.setNames a (.shared d)
    | _, _ => Exec.typeError "__dict__ must be a dictionary"
  | _, _ => Exec.modifyIncident v fun x => { x with parts := x.parts.put name w }

def putOfType (t : Value) (name : String) (w : Value) : Exec Unit := do
  match t with
  | .object a =>
    let word ← Typing.name t
    match name with
    | "__name__" =>
      match ← Typing.unboxed w with
      | .str s => Exec.modifyClass a fun c => { c with name := s }
      | _ =>
        Exec.typeError ("can only assign string to " ++ word ++ ".__name__, not '" ++
          (← Typing.word w) ++ "'")
    | "__qualname__" =>
      match ← Typing.unboxed w with
      | .str s => Exec.modifyClass a fun c => { c with qualified := s }
      | _ =>
        Exec.typeError ("can only assign string to " ++ word ++ ".__qualname__, not '" ++
          (← Typing.word w) ++ "'")
    | "__dict__" | "__mro__" | "__base__" | "__flags__" | "__basicsize__" | "__itemsize__"
    | "__text_signature__" =>
      Exec.raise "AttributeError" ("attribute '" ++ name ++ "' of 'type' objects is not writable")
    | _ => Typing.putName a name w
  | t =>
    Exec.typeError ("cannot set '" ++ name ++ "' attribute of immutable type '" ++
      (← Typing.name t) ++ "'")

def putOfFunction (a : Nat) (f : Function) (name : String) (w : Value) : Exec Unit := do
  let set (g : Function) : Exec Unit := Exec.setData a (.function g)
  match name with
  | "__name__" => set { f with name := ← textFor "__name__" w }
  | "__qualname__" => set { f with qualified := ← textFor "__qualname__" w }
  | "__doc__" => set { f with doc := w }
  | "__module__" => set { f with moduleName := w }
  | "__defaults__" =>
    match w with
    | .none => set { f with defaults := [] }
    | .tuple items => set { f with defaults := items }
    | _ => Exec.typeError "__defaults__ must be set to a tuple object"
  | "__kwdefaults__" =>
    match w with
    | .none => set { f with keywordDefaults := [] }
    | .object d =>
      match ← Exec.dataAt d with
      | .dict t => set { f with keywordDefaults := t.toFields }
      | _ => Exec.typeError "__kwdefaults__ must be set to a dict object"
    | _ => Exec.typeError "__kwdefaults__ must be set to a dict object"
  | "__annotations__" =>
    match ← Exec.data? w with
    | some (.dict _) => set { f with hints := some w }
    | _ =>
      if w.isNone then set { f with hints := none }
      else Exec.typeError "__annotations__ must be set to a dict object"
  | "__code__" =>
    match ← Exec.data? w with
    | some (.code c) => set { f with code := c }
    | _ => Exec.typeError "__code__ must be set to a code object"
  | _ => Exec.setNames a (match w with
      | .object d => .shared d
      | _ => .own [])

/-- Makes a value one of another class. -/
def putClass (v w : Value) : Exec Unit := do
  if !(← Typing.isType w) then
    Exec.typeError ("__class__ must be set to a class, not '" ++ (← Typing.word w) ++ "' object")
  let t ← Typing.of v
  match v, t, w with
  | .object a, .object _, .object _ =>
    if (← Typing.solid t) == (← Typing.solid w) then
      modify fun s => { s with objects := s.objects.modify a fun o => { o with cls := w } }
    else
      Exec.typeError ("__class__ assignment: '" ++ (← Typing.name w) ++
        "' object layout differs from '" ++ (← Typing.name t) ++ "'")
  | _, _, _ =>
    Exec.typeError
      "__class__ assignment only supported for mutable types or ModuleType subclasses"

/-- Sets the value that a type computes by a name. -/
def put (e : Engine) (v : Value) (k : Kind) (name : String) (w : Value) : Exec Unit := do
  match k, v, ← Exec.data? v with
  | .object, _, _ => putClass v w
  | .type, _, _ => putOfType v name w
  | .function, .object a, some (.function f) => putOfFunction a f name w
  | .exception cls, _, _ => putIncident e v cls name w
  | .property, .object a, some (.property p) =>
    Exec.setData a (.property { p with doc := w })
  | .cell, _, some (.cell i) => Exec.setCell i (some w)
  | .stub, .object a, _ =>
    match w with
    | .object d => Exec.setNames a (.shared d)
    | _ => Exec.typeError "__dict__ must be set to a dictionary"
  | _, .object a, some (.generator g) =>
    match name with
    | "__name__" => Exec.setData a (.generator { g with name := ← textFor name w })
    | _ => Exec.setData a (.generator { g with qualified := ← textFor name w })
  | k, _, _ => refuseWrite k name

/-- Takes away the value that a type computes by a name. -/
def erase (v : Value) (k : Kind) (name : String) : Exec Unit := do
  match k, name, v, ← Exec.data? v with
  | .exception "BaseException", "args", _, _ => Exec.typeError "args may not be deleted"
  | .exception "BaseException", _, _, _ => Exec.typeError (name ++ " may not be deleted")
  | .exception _, _, _, _ =>
    Exec.modifyIncident v fun x => { x with parts := x.parts.erase name }
  | .function, "__defaults__", .object a, some (.function f) =>
    Exec.setData a (.function { f with defaults := [] })
  | .function, "__kwdefaults__", .object a, some (.function f) =>
    Exec.setData a (.function { f with keywordDefaults := [] })
  | .function, "__annotations__", .object a, some (.function f) =>
    Exec.setData a (.function { f with hints := none })
  | .function, "__doc__", .object a, some (.function f) =>
    Exec.setData a (.function { f with doc := .none })
  | .function, _, _, _ => Exec.typeError (name ++ " must be set to a string object")
  | .cell, _, _, some (.cell i) => Exec.setCell i none
  | .object, _, _, _ => Exec.typeError "can't delete __class__ attribute"
  | .type, _, .object a, _ =>
    if (← Typing.ownName? a name).isSome then Typing.eraseName a name
    else Exec.typeError ("cannot delete '" ++ name ++ "' attribute of type '" ++
      (← Typing.name v) ++ "'")
  | k, _, _, _ => refuseWrite k name

end Exemplar.Machine.Field
