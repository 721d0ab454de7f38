import Exemplar.Datum
import Exemplar.Json.Basic
import Exemplar.Machine.Compile.Stmt
import Exemplar.Machine.Run
import Exemplar.Sandbox.Runner
import Exemplar.Source.Module

/-
  Values of programs as text. A value that a document can express is written as one; otherwise what
  cannot be expressed is replaced by its quoted text; if even that fails the whole value is quoted,
  and a value whose text cannot be made is named by its type.

  The worker: it runs the statements of a module and then a call in the machine, and answers with
  the text of the value or with the exception. Nothing that the program raises escapes it, except
  where the text of an exception or of a value cannot be made.
-/

namespace Exemplar.Serial

open Machine

/-! ### Documents -/

/-- Refuses a value that no document expresses. -/
def refuse (v : Value) : Exec String := do
  Exec.typeError ("Object of type " ++ (← Typing.shortName (← Typing.of v)) ++
    " is not JSON serializable")

/-- A key as the name of a field. -/
def keyText (v : Value) : Exec String := do
  match ← Typing.unboxed v with
  | .str s => pure s
  | .int n => Show.intText n
  | .bool b => pure (if b then "true" else "false")
  | .none => pure "null"
  | .float x => pure (String.ofList (Json.writeFloat x))
  | v =>
    Exec.typeError ("keys must be str, int, float, bool or None, not " ++ (← Typing.word v))

def writeText (s : String) : String := String.ofList (Json.writeString false s)

/-- Runs a computation inside a container, which must not be around it already. -/
def within (path : List Nat) (a : Nat) (make : List Nat → Exec String) : Exec String :=
  if path.contains a then Exec.valueError "Circular reference detected" else make (a :: path)

/-- The entries of a dictionary, which its class may give in its own way. -/
def entriesOf (e : Engine) (v : Value) (t : Table) : Exec (List (Value × Value)) := do
  match ← Typing.of v with
  | .kind _ => pure (t.toList.map fun x => (x.key, x.value))
  | _ =>
    if t.used == 0 then return []
    let given := (← Typing.callSpecial? e v "items" []).getD .none
    let items ← match ← Iterate.iter? e given with
      | some it => do pure (← Iterate.drain e it (← Exec.fuel) #[]).toList
      | none =>
        Exec.typeError ((← Typing.word v) ++ ".items() returned a non-iterable (type " ++
          (← Typing.word given) ++ ")")
    items.mapM fun i => do
      match ← Typing.unboxed i with
      | .tuple [k, w] => pure (k, w)
      | _ => Exec.valueError "items must return 2-tuples"

/-- The document that a value is, up to some depth; `other` gives the value that is written in the
place of one that no document expresses. -/
def document (e : Engine) (other : Value → Exec String) : Nat → List Nat → Value → Exec String
  | 0, _, _ => Exec.raise "RecursionError" "maximum recursion depth exceeded"
  | n + 1, path, v => do
    let items (path : List Nat) (vs : List Value) : Exec String := do
      let texts ← vs.mapM (document e other n path)
      pure ("[" ++ ", ".intercalate texts ++ "]")
    match ← Typing.unboxed v, ← Exec.data? v with
    | .none, _ => pure "null"
    | .bool b, _ => pure (if b then "true" else "false")
    | .int k, _ => Show.intText k
    | .float x, _ => pure (String.ofList (Json.writeFloat x))
    | .str s, _ => pure (writeText s)
    | .tuple vs, _ => items path vs
    | .object a, some (.list vs) => within path a fun path => items path vs.toList
    | .object a, some (.dict t) =>
      within path a fun path => do
        let entries ← entriesOf e v t
        let texts ← entries.mapM fun (k, w) => do
          let name ← keyText k
          return writeText name ++ ": " ++ (← document e other n path w)
        pure ("\x7b" ++ ", ".intercalate texts ++ "\x7d")
    | _, _ => other v

/-- How deep a document may nest. -/
def maxDepth : Nat := 990

/-! ### Any value -/

/-- Whether an exception is one that writing a document may meet. -/
def isExpected (x : Value) : Exec Bool :=
  ["TypeError", "ValueError", "OverflowError", "RecursionError"].anyM (Typing.isError x)

/-- The result of a computation, or nothing if it raises an exception of a kind. -/
def attempt {α : Type} (expected : Value → Exec Bool) (m : Exec α) : Exec (Option α) :=
  Exec.catching (some <$> m) fun x => do
    if ← expected x then pure none else throw (.raised x)

/-- The text of a value. -/
def text (e : Engine) (v : Value) : Exec String := do
  let isError (x : Value) : Exec Bool := Typing.isError x "Exception"
  if let some t ← attempt isExpected (document e refuse maxDepth [] v) then return t
  let quoted (w : Value) : Exec String := do return writeText (← e.quoted w)
  if let some t ← attempt isError (document e quoted maxDepth [] v) then return t
  if let some t ← attempt isError (e.quoted v) then return t
  return "<unrepresentable " ++ (← Typing.shortName (← Typing.of v)) ++ ">"

/-! ### Suspended functions -/

/-- How many items of a generator are taken. -/
def maxItems : Nat := 20

/-- Runs a coroutine to its end. What it waits for outside the program may only be a turn to pass;
anything else is raised where it waits. -/
def drive (e : Engine) (v : Value) : Nat → Option Value → Exec Value
  | 0, _ => throw .exhausted
  | n + 1, failure => do
    match ← Generator.of? v with
    | none => pure v
    | some (a, g) =>
      let r ← match failure with
        | none => Generator.resume e a g .none
        | some x => Generator.throwInto e false [x] Generator.depth a g x
      match r with
      | .returned w => pure w
      | .yielded .none | .awaiting .none => drive e v n none
      | .yielded w | .awaiting w =>
        let text := "Task got bad yield: " ++ (← e.quoted w)
        let x ← Exec.new (.exception "RuntimeError") (.exception { args := [.str text] })
        drive e v n (some x)

/-- The manner of a suspended function. -/
def mannerOf (v : Value) : Exec (Option Manner) := do
  return (← Generator.of? v).map fun g => g.2.manner

/-- What a value comes to: a coroutine is run, and the first items of a generator are taken. -/
def materialize (e : Engine) (v : Value) : Exec Value := do
  let v ←
    if (← mannerOf v) == some .coroutine then drive e v (← Exec.fuel) none else pure v
  if (← mannerOf v) == some .generator then
    Exec.new .list (.list (← Iterate.take e v maxItems).toArray)
  else pure v

end Exemplar.Serial

namespace Exemplar.Worker

open Machine

/-- What a worker is asked for: a call, the statements that it is made against or the error of
getting them, the modules that are really imported or why they are not known, and bounds. -/
structure Task where
  call : String
  code : Except Raised Code
  allowedImports : Except Raised (List String) := .ok []
  environment : List (String × String) := []
  /-- How many bytes the program may use. -/
  memory : Option Nat := none

inductive Answer
  | value (text : String)
  | failure (kind : FailureKind) (text : String)
  deriving DecidableEq

/-- How the work on a task ends. -/
inductive Ended
  | answered (a : Answer)
  /-- An exception that the worker does not answer itself. -/
  | raised (e : Raised)
  /-- The program runs for too long. -/
  | endless
  /-- The program ended the process. -/
  | exited (code : Int)
  deriving DecidableEq

/-- The name of the module that programs run in. -/
def moduleName : String := "__sandbox__"

/-- The name that messages use for the text of a call. -/
def callFile : String := "<call>"

/-- How many steps a program may take. -/
def maxSteps : Nat := 30000000

/-- What of the memory a program finds in use when it starts. -/
def usedMemory : Nat := 24 * 1024 * 1024

/-- The names that a program finds, the second dictionary holding those that need no
declaration. -/
def startNames : Table :=
  .ofFields [("__name__", .str moduleName), ("__builtins__", .object builtins)]

/-- The machine before a program runs. -/
def start (t : Task) (allowed : List String) : State :=
  { objects :=
      #[{ cls := .kind .dict, data := .dict startNames },
        { cls := .kind .dict, data := .dict (.ofFields Builtin.table) }]
    allowed := allowed
    environment := t.environment
    memory := t.memory.map (· - usedMemory)
    steps := maxSteps }

/-- The expression that a call is. -/
def readCall (text : String) : Except (Raised ⊕ Syntax.SyntaxFault) Tree :=
  let cs := text.toList
  if cs.contains '\x00' then .error (.inl (.valueError nullCharacterMessage))
  else
    let cs := Syntax.endLine (Text.unifyLineEnds cs)
    match Syntax.parseTree? cs with
    | none => .error (.inr (Syntax.diagnoseExpr cs))
    | some e =>
      match Syntax.scopeFaultOfTree? e with
      | some f => .error (.inr f)
      | none => .ok e

/-- The frame of code over the names of a file. -/
def frameOf (name : String) (code : Code) : Frame :=
  { code := code, names := some globals, owner := .mk name name {} .plain {} .none code }

/-- Runs the statements of a module and a call. -/
def compute (e : Engine) (code : Code) (call : Tree) : Exec Value := do
  let run (f : Frame) : Exec Value := do
    match ← e.run f with
    | .returned v | .yielded v _ | .awaiting v _ => pure v
  let _ ← run (frameOf "<module>" code)
  Serial.materialize e (← run (frameOf "<module>" (Compile.call call)))

/-- The answer to a task whose call is read. -/
def answer (e : Engine) (code : Code) (call : Tree) : Exec Answer := do
  let outcome ← Exec.catching (Sum.inl <$> compute e code call) fun x =>
    Sum.inr <$> Show.describe e x
  match outcome with
  | .inl v => return .value (← Serial.text e v)
  | .inr text => return .failure .thrown text

/-- An exception that is not answered, as a report shows it. -/
def reportOf (e : Engine) (x : Value) (s : State) : Raised :=
  let report : Exec Raised := do
    let name ← Typing.shortName (← Typing.of x)
    return ⟨name, ← Show.plain e x⟩
  match report.run s with
  | .ok r _ => r
  | .error _ _ => ⟨"Exception", ""⟩

/-- Works on a task: how that ends, and what the program has written. -/
def perform (t : Task) : Ended × String :=
  match readCall t.call with
  | .error (.inl x) => (.raised x, "")
  | .error (.inr f) =>
    (.answered (.failure .unreachable (f.about.name ++ ": " ++ f.text callFile)), "")
  | .ok call =>
    match t.allowedImports with
    | .error x => (.raised x, "")
    | .ok allowed =>
      match t.code with
      | .error x => (.answered (.failure .thrown x.describe), "")
      | .ok code =>
        let written (s : State) : String := String.join s.output.reverse
        match (answer Run.machine code call).run (start t allowed) with
        | .ok a s => (.answered a, written s)
        | .error (.raised x) s => (.raised (reportOf Run.machine x s), written s)
        | .error .exhausted s => (.endless, written s)
        | .error (.exit code) s => (.exited code, written s)

/-- A text up to a limit, which counts from the end if it is negative. -/
def limited (limit : Option Int) (text : String) : String :=
  match limit with
  | none => text
  | some n =>
    let cs := text.toList
    String.ofList (cs.take (if n < 0 then (cs.length + n).toNat else n.toNat))

/-- The response to a request. -/
def respond (a : Answer) (limit : Option Int) (output : String) : Response :=
  match a with
  | .value text => { ok := true, value := some text, output := limited limit output }
  | .failure kind text =>
    { ok := false, compile := kind == .unreachable, error := some text,
      output := limited limit output }

/-- How the process of a worker ends on a request about a module. -/
def process (m : Module) (environment : List (String × String)) (r : Request) : Ending :=
  let task : Task :=
    { call := r.call, code := .ok (Compile.file true m.body)
      allowedImports := .ok r.allowedImports, environment := environment
      memory := r.memoryLimit.map fun n => n.toNat * 1024 * 1024 }
  match perform task with
  | (.answered a, output) =>
    .finished ((respond a (some r.maxOutput) output).toJson.toAscii) "" 0
  | (.raised x, _) => .finished "" x.describe 1
  | (.endless, _) => .timedOut
  | (.exited code, _) => .finished "" "" (code % 256)

/-- Paths of interpreters that can be started, besides that of the settings as they are given. -/
def interpreters : List String :=
  ["python", "python3", "/usr/bin/python3", "/usr/local/bin/python3"]

/-- How the process that the settings ask for ends on a request about a module: an interpreter
that is not there is not started, and one without a limit on time that never ends is killed. -/
def processOf (s : SandboxSettings) (m : Module) (r : Request) : Ending :=
  if s.executable == ({} : SandboxSettings).executable || interpreters.contains s.executable then
    match process m Runner.environment r with
    | .timedOut => if s.timeout.isSome then .timedOut else .finished "" "" (-9)
    | ended => ended
  else .notStarted ("[Errno 2] No such file or directory: " ++ Text.quote s.executable)

end Exemplar.Worker
