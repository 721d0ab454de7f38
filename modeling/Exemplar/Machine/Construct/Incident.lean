import Exemplar.Machine.Iterate
import Exemplar.Machine.Method.Basic

/-
  Exceptions from arguments: making one, and setting up what exceptions of its class hold besides
  its arguments.
-/

namespace Exemplar.Machine.Construct.Incident

/-- Whether exceptions of a class are of another one. -/
def isKind (cls name : String) : Bool := (Kind.exception cls).extends? (.exception name)

/-- An instance of a class with what it holds. -/
def holding (cls : Value) (d : Data) : Exec Value := do
  match cls with
  | .kind _ => Exec.newObject { cls := cls, data := d }
  | cls => Exec.newObject { cls := cls, names := .own [], data := d }

/-! ### Errors of the operating system -/

/-- Whether an error of the operating system is set up only after it has been made: its class says
how to set it up and not how to make it. -/
def isSetUpLater (cls : Value) : Exec Bool := do
  match ← Typing.declared? cls "__init__", ← Typing.declared? cls "__new__" with
  | some (.native _ _), _ => pure false
  | _, some (.native _ _) => pure true
  | _, _ => pure false

/-- What an error of the operating system knows from its arguments, and those that it keeps. -/
def systemError (cls : String) (args : List Value) : List Value × Fields :=
  match args with
  | number :: message :: rest =>
    if 3 < rest.length then (args, [])
    else
      let known : Fields := [("errno", number), ("strerror", message)]
      match rest.head? with
      | none | some .none => (args, known)
      | some file =>
        match cls, file.int? with
        | "BlockingIOError", some n => (args, known ++ [("characters_written", .int n)])
        | _, _ =>
          let given : List Value := (rest.drop 2).filter fun v => !v.isNone
          let second : Fields := (given.take 1).map fun v => ("filename2", v)
          ([number, message], known ++ ("filename", file) :: second)
  | _ => (args, [])

def noNames (cls : Value) (named : Fields) : Exec Unit := do
  if !named.isEmpty then
    Exec.typeError ((← Typing.name cls) ++ "() takes no keyword arguments")

def newSystemError (cls : Value) (args : List Value) (named : Fields) : Exec Value := do
  if ← isSetUpLater cls then holding cls (.exception {})
  else
    noNames cls named
    let base ← match ← Typing.solid cls with
      | .exception n => pure n
      | _ => pure "OSError"
    let (kept, known) := systemError base args
    let cls := match cls, known.lookup "errno" with
      | .kind (.exception "OSError"), some (.int n) =>
        Value.exceptionType (ExceptionClass.ofErrorNumber n)
      | _, _ => cls
    holding cls (.exception { args := kept, parts := known })

/-! ### Groups -/

/-- The members of a group of exceptions, and whether all of them are ordinary. -/
def groupMembers (e : Engine) (v : Value) : Exec (List Value × Bool) := do
  let isSequence ← match ← Typing.unboxed v, ← Exec.data? v with
    | .tuple _, _ | .str _, _ | .bytes _, _ | .range _ _ _, _ => pure true
    | _, some (.list _) | _, some (.bytearray _) | _, some (.zeros _) => pure true
    | _, some (.dict _) => pure false
    | _, _ =>
      let declared ← Typing.ofProgram? (← Typing.of v) "__getitem__"
      pure declared.isSome
  if !isSequence then Exec.typeError "second argument (exceptions) must be a sequence"
  let members ← Iterate.collect e v
  if members.isEmpty then
    Exec.valueError "second argument (exceptions) must be a non-empty sequence"
  for (m, i) in members.zipIdx do
    if !(← Typing.isError m "BaseException") then
      Exec.valueError ("Item " ++ toString i ++
        " of second argument (exceptions) is not an exception")
  pure (members, ← members.allM fun m => Typing.isError m "Exception")

def newGroup (e : Engine) (cls : Value) (args : List Value) : Exec Value := do
  match args with
  | [message, v] =>
    match ← Typing.unboxed message with
    | .str _ => pure ()
    | _ =>
      Exec.typeError ("BaseExceptionGroup.__new__() argument 1 must be str, not " ++
        (← Passed.word message))
    let (members, ordinary) ← groupMembers e v
    let cls ← match cls with
      | .kind (.exception "ExceptionGroup") =>
        if !ordinary then Exec.typeError "Cannot nest BaseExceptions in an ExceptionGroup"
        pure cls
      | .kind _ =>
        pure (if ordinary then Value.exceptionType "ExceptionGroup" else cls)
      | cls =>
        if !ordinary && (← Typing.extends? cls (Value.exceptionType "Exception")) then
          Exec.typeError ("Cannot nest BaseExceptions in '" ++ (← Typing.name cls) ++ "'")
        pure cls
    holding cls (.exception
      { args := args, parts := [("message", message), ("exceptions", .tuple members)] })
  | _ =>
    Exec.typeError ("BaseExceptionGroup.__new__() takes exactly 2 arguments (" ++
      toString args.length ++ " given)")

/-! ### Other parts -/

/-- What a fault of source text knows from its arguments. -/
def sourceFault (e : Engine) (args : List Value) : Exec Fields := do
  match args with
  | [] => pure []
  | [message, place] =>
    let items ← Iterate.collect e place
    let n := items.length
    let refuse (bound : String) : Exec Fields :=
      Exec.typeError ("function takes at " ++ bound ++ " arguments (" ++ toString n ++ " given)")
    if n < 4 then refuse "least 4"
    else if 6 < n then refuse "most 6"
    else if n == 5 then
      Exec.typeError "end_offset must be provided when end_lineno is provided"
    else
      let names := ["filename", "lineno", "offset", "text", "end_lineno", "end_offset"]
      pure (("msg", message) :: names.zip items)
  | message :: _ => pure [("msg", message)]

/-- What a fault in an encoding knows from its arguments, which have to be as it needs them. -/
def encodingFault (e : Engine) (cls : String) (args : List Value) : Exec Fields := do
  let names := (Kind.exception cls).fields.map (·.1)
  if args.length != names.length then
    Exec.typeError ("function takes exactly " ++ toString names.length ++ " arguments (" ++
      toString args.length ++ " given)")
  let check (name : String) (i : Nat) (v : Value) : Exec Value := do
    match name with
    | "start" | "end" => return .int (← Measure.sizeArgument e v)
    | "object" =>
      if cls == "UnicodeDecodeError" then
        match ← Compare.bytes? v with
        | some b => return .bytes b
        | none =>
          Exec.typeError ("a bytes-like object is required, not '" ++ (← Typing.word v) ++ "'")
      else text i v
    | _ => text i v
  return names.zip (← (names.zip args).zipIdx.mapM fun ((n, v), i) => check n i v)
where
  text (i : Nat) (v : Value) : Exec Value := do
    match ← Typing.unboxed v with
    | .str _ => pure v
    | _ =>
      Exec.typeError ("argument " ++ toString (i + 1) ++ " must be str, not " ++
        (← Passed.word v))

/-- Parts that are given by name, of those that a class knows. -/
def namedParts (cls : String) (known : List String) (named : Fields) : Exec Fields := do
  for (n, _) in named do
    if !known.contains n then
      Exec.typeError ("'" ++ n ++ "' is an invalid keyword argument for " ++ cls ++ "()")
  pure named

/-- The class of those there are without a declaration whose rule an exception is set up by. -/
def ruleOf (cls : String) : String :=
  (["StopIteration", "SystemExit", "ImportError", "NameError", "AttributeError", "OSError",
    "SyntaxError", "UnicodeDecodeError", "UnicodeEncodeError", "UnicodeTranslateError",
    "BaseExceptionGroup"].find? (isKind cls)).getD "BaseException"

/-- Makes an exception of a class. -/
def make (e : Engine) (k cls : Value) (args : List Value) (named : Fields) : Exec Value := do
  let base := match k with
    | .kind (.exception n) => n
    | _ => "BaseException"
  match ruleOf base with
  | "OSError" => newSystemError cls args named
  | "BaseExceptionGroup" => newGroup e cls args
  | _ => holding cls (.exception { args := args })

/-- Sets up an exception by the rule of a class. -/
def setUp (e : Engine) (cls : String) (v : Value) (args : List Value) (named : Fields) :
    Exec Unit := do
  let t ← Typing.of v
  let put (parts : Fields) : Exec Unit :=
    Exec.modifyIncident v fun x => { x with args := args, parts := parts }
  let bare : Exec Unit := noNames t named
  match ruleOf cls with
  | "StopIteration" =>
    bare
    put [("value", args.headD .none)]
  | "SystemExit" =>
    bare
    put (match args with
      | [] => []
      | [w] => [("code", w)]
      | args => [("code", .tuple args)])
  | "ImportError" =>
    let parts ← namedParts "ImportError" ["name", "path"] named
    put ((match args with
      | [w] => [("msg", w)]
      | _ => []) ++ parts)
  | "NameError" => do put (← namedParts "NameError" ["name"] named)
  | "AttributeError" => do put (← namedParts "AttributeError" ["name", "obj"] named)
  | "OSError" =>
    if ← isSetUpLater t then
      bare
      let base ← match ← Typing.solid t with
        | .exception n => pure n
        | _ => pure "OSError"
      let (kept, known) := systemError base args
      Exec.modifyIncident v fun x => { x with args := kept, parts := known }
  | "SyntaxError" =>
    bare
    put (← sourceFault e args)
  | "UnicodeDecodeError" | "UnicodeEncodeError" | "UnicodeTranslateError" =>
    bare
    put (← encodingFault e (ruleOf cls) args)
  | "BaseExceptionGroup" =>
    bare
    Exec.modifyIncident v fun x => { x with args := args }
  | _ =>
    bare
    Exec.modifyIncident v fun x => { x with args := args }

end Exemplar.Machine.Construct.Incident
