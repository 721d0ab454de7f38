import Exemplar.Sandbox.ByteSource
import Exemplar.Sandbox.Limits
import Exemplar.Sandbox.Packed
import Exemplar.Sandbox.Worker

/-
  What a worker makes of the document of a request, which may hold anything. A part of the wrong
  kind is refused where it is first used: limits before anything else, then the call, the names of
  modules and the code.
-/

namespace Exemplar.Worker

/-- Whether a document counts as given; nothing, zero and what is empty do not. -/
def isGiven : Json → Bool
  | .null => false
  | .bool b => b
  | .int n => n != 0
  | .float x => !x.isZero
  | .str s => !s.isEmpty
  | .arr items => !items.isEmpty
  | .obj fields => !fields.isEmpty

/-- A field that is given. -/
def given? (name : String) (fields : List (String × Json)) : Option Json :=
  (Json.field? name fields).filter isGiven

/-- What is raised for a limit that is no integer. -/
def notInteger (word : String) : Raised :=
  .typeError ("'" ++ word ++ "' object cannot be interpreted as an integer")

/-- The bounds of integers that a system takes. -/
def longBound : Int := Nat.pow 2 63

/-- Checks that a system takes a limit. -/
def checkLimit : Number → Except Raised Unit
  | .float _ => .error (notInteger "float")
  | .int n =>
    if n < -longBound || longBound ≤ n then
      .error ⟨"OverflowError", "Python int too large to convert to C long"⟩
    else .ok ()

/-- A limit on memory in bytes, or the word for what is no number. -/
def memoryLimit : Json → Except Raised (Number ⊕ String)
  | .int n => .ok (.inl (Limits.bytesOf (.int n)))
  | .bool b => .ok (.inl (Limits.bytesOf (.int (if b then 1 else 0))))
  | .float x => .ok (.inl (Limits.bytesOf (.float x)))
  | .obj _ => .error (.typeError "unsupported operand type(s) for *: 'dict' and 'int'")
  | j => .ok (.inr j.typeWord)

/-- A limit on processor time in whole seconds. -/
def timeLimit : Json → Except Raised Int
  | .int n => .ok n
  | .bool b => .ok (if b then 1 else 0)
  | .float x => Request.ceiling (.float x)
  | j => .error (.typeError ("must be real number, not " ++ j.typeWord))

/-- Puts on the limits that a request asks for; only what cannot be a limit shows. -/
def applyLimits (fields : List (String × Json)) : Except Raised Unit := do
  let memory ← (given? "memory_limit_mb" fields).mapM memoryLimit
  let time ← (given? "cpu_seconds" fields).mapM timeLimit
  match memory with
  | none => pure ()
  | some (.inl n) => checkLimit n
  | some (.inr word) => throw (notInteger word)
  match time with
  | none => pure ()
  | some n => checkLimit (.int n)

/-- The name that messages use for code that was sent as a text. -/
def textFile : String := "<string>"

/-- The code of a program that was sent as a text. -/
def codeOfText (cs : List Char) : Except Raised Machine.Code :=
  if cs.contains '\x00' then .error (.valueError nullCharacterMessage)
  else match Module.statements cs with
  | .ok body => .ok (Machine.Compile.file false body)
  | .error f => .error ⟨f.about.name, f.text textFile⟩

/-- The code of a program that was sent as bytes. -/
def codeOfBytes (bytes : List UInt8) : Except Raised Machine.Code :=
  if bytes.contains 0 then .error (.valueError nullCharacterMessage)
  else match ByteSource.text bytes with
  | .ok cs => codeOfText cs
  | .error f =>
    .error ⟨"SyntaxError", f.message ++ " (" ++ textFile ++ ", line " ++ toString f.line ++ ")"⟩

/-- What is raised for a text that cannot be written as bytes. -/
def halfMessage (place count half : Nat) : String :=
  "'utf-8' codec can't encode " ++
    (if count == 1 then
      "character '\\u" ++ String.ofList (Nat.toDigits 16 half) ++ "' in position " ++
        toString place
    else "characters in position " ++ toString place ++ "-" ++ toString (place + count - 1)) ++
    ": surrogates not allowed"

/-- The code in packed form. What was packed from code cannot be read back, and is taken to do
nothing. -/
def unpack (bytes : List UInt8) : Except Raised Machine.Code := do
  match ← Packed.read bytes with
  | .text cs => codeOfText cs
  | .broken place count half => .error ⟨"UnicodeEncodeError", halfMessage place count half⟩
  | .bytes b => codeOfBytes b
  | .code => .ok []
  | .other _ => .error (.typeError "exec() arg 1 must be a string, bytes or code object")

/-- The code in a request. -/
def codeOf : Json → Except Raised Machine.Code
  | .str s =>
    if s.toList.any fun c => 128 ≤ c.toNat then
      .error (.valueError "string argument should contain only ASCII characters")
    else do unpack (← Base64.decode s.toList)
  | j =>
    .error (.typeError ("argument should be a bytes-like object or ASCII string, not '" ++
      j.typeWord ++ "'"))

/-- The text of a call in a request. -/
def callOf (fields : List (String × Json)) : Except Raised String :=
  match Json.field? "call" fields with
  | none => .error ⟨"KeyError", "'call'"⟩
  | some (.str s) => .ok s
  | some _ => .error (.typeError "compile() arg 1 must be a string, bytes or AST object")

/-- The name of a module in a request; what is no text is the name of none. -/
def importOf : Json → Except Raised (Option String)
  | .str s => .ok (some s)
  | .arr _ => .error (.typeError "unhashable type: 'list'")
  | .obj _ => .error (.typeError "unhashable type: 'dict'")
  | _ => .ok none

/-- The names of modules in a request. -/
def importsOf (fields : List (String × Json)) : Except Raised (List String) :=
  match given? "allowed_imports" fields with
  | none => .ok []
  | some (.arr items) => do return (← items.mapM importOf).filterMap id
  | some (.str s) => .ok (s.toList.map String.singleton)
  | some (.obj fields) => .ok (fields.map (·.1))
  | some j => .error (.typeError ("'" ++ j.typeWord ++ "' object is not iterable"))

/-- The task of a request; `code` stands for the statements if they are at hand. -/
def taskOf (fields : List (String × Json)) (code : Option (List Stmt)) : Except Raised Task := do
  let call ← callOf fields
  let code := match code with
    | some body => .ok (Machine.Compile.file true body)
    | none =>
      match Json.field? "code" fields with
      | some j => codeOf j
      | none => .error ⟨"KeyError", "'code'"⟩
  pure { call := call, code := code, allowedImports := importsOf fields }

/-- The limit on output in a request. -/
def limitOf (fields : List (String × Json)) : Except Raised (Option Int) :=
  match Json.field? "max_output_chars" fields with
  | none => .ok (some 4096)
  | some .null => .ok none
  | some (.int n) => .ok (some n)
  | some (.bool b) => .ok (some (if b then 1 else 0))
  | some _ =>
    .error (.typeError "slice indices must be integers or None or have an __index__ method")

/-- The answer to a request with what the program has written, or the error that the request is
refused with. -/
def evaluate (request : Json) (code : Option (List Stmt)) : Except Raised (Answer × String) :=
  match request with
  | .obj fields => do
    match perform (← taskOf fields code) with
    | (.answered a, output) => .ok (a, output)
    | (.raised e, _) => .error e
    | (.endless, _) => .error ⟨"TimeoutError", ""⟩
    | (.exited code, _) => .error ⟨"SystemExit", toString code⟩
  | j =>
    .error ⟨"AttributeError", "'" ++ j.typeWord ++ "' object has no attribute 'get'"⟩

/-- The response to a request under the limits that it asks for. -/
def serve (request : Json) (code : Option (List Stmt)) : Except Raised Response := do
  let fields := match request with
    | .obj fields => fields
    | _ => []
  applyLimits fields
  let (a, output) ← evaluate request code
  return respond a (← limitOf fields) output

end Exemplar.Worker
