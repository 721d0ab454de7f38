import Exemplar.Json.Reader
import Exemplar.Sandbox.Verdict
import Exemplar.Settings.Environment
import Exemplar.Text.Lines

/-
  The documents that pass between a runner and its worker: a request for one call, and a response
  on one line. A response is read leniently where it answers a yes or no, and strictly elsewhere.

  Running one call in a process of its own. Whatever becomes of the process, the caller gets a
  verdict: a limit on time that ran out, an interpreter that could not be started and an answer
  that cannot be read are failures like those of the call itself.
-/

namespace Exemplar

/-- A request for a call, apart from the code that it is made against. -/
structure Request where
  call : String
  allowedImports : List String
  memoryLimit : Option Int
  /-- Whole seconds of processor time. -/
  cpuSeconds : Option Int
  maxOutput : Int
  deriving DecidableEq

namespace Request

/-- The least whole number of seconds that is not below a limit. -/
def ceiling : Number → Except Raised Int
  | .int n => .ok n
  | .float x =>
    if x.isNaN then .error (.valueError "cannot convert float NaN to integer")
    else if x.isInfinite then
      .error ⟨"OverflowError", "cannot convert float infinity to integer"⟩
    else .ok x.ceil

/-- A written form, cut in its middle where it is long. -/
def shortened (text : String) : String :=
  let cs := text.toList
  if cs.length ≤ 50 then text
  else String.ofList (cs.take 25) ++ "..." ++ String.ofList (cs.drop (cs.length - 24))

/-- What is raised for seconds of processor time that no double comes near, but for the link at the
end of the text. -/
def longTime (n : Int) : Raised :=
  .valueError ("1 validation error for SandboxRequest\ncpu_seconds\n" ++
    "  Input should be a valid number [type=float_type, input_value=" ++
    shortened (if Decimal.isLong n then "<unprintable int object>" else toString n) ++
    ", input_type=int]")

/-- The limit on processor time: a second above a limit on time. -/
def cpuLimit (t : Number) : Except Raised Int := do
  let n ← ceiling t
  if (Binary64.ofInt (n + 1)).isInfinite then .error (longTime (n + 1)) else .ok (n + 1)

/-- The request for a call. -/
def make (s : SandboxSettings) (call : String) : Except Raised Request := do
  let cpu ← s.timeout.mapM cpuLimit
  pure ⟨call, s.allowedImports, s.memoryLimit, cpu, s.maxOutput⟩

/-- The document that asks for the call, with the code already in its own form. -/
def toJson (r : Request) (code : Json) : Json :=
  .obj [("code", code), ("call", .str r.call),
    ("allowed_imports", .arr (r.allowedImports.map .str)),
    ("memory_limit_mb", r.memoryLimit.elim .null .int),
    ("cpu_seconds", r.cpuSeconds.elim .null fun n => .float (.ofInt n)),
    ("max_output_chars", .int r.maxOutput)]

end Request

/-- What a worker answers. -/
structure Response where
  ok : Bool
  /-- Whether the call did not parse, where the worker says. -/
  compile : Bool := false
  value : Option String := none
  error : Option String := none
  output : String := ""
  deriving DecidableEq

namespace Response

/-- Words for yes and no, in letters of any case. -/
def yesWords : List String := ["1", "on", "t", "true", "y", "yes"]

def noWords : List String := ["0", "off", "f", "false", "n", "no"]

/-- A yes or no: a truth value, one or zero, or a word. -/
def readFlag : Json → Option Bool
  | .bool b => some b
  | .int n => if n == 1 then some true else if n == 0 then some false else none
  | .float x => if x.isZero then some false else if x == .ofInt 1 then some true else none
  | .str s =>
    let s := s.toLower
    if yesWords.contains s then some true else if noWords.contains s then some false else none
  | _ => none

/-- A text that may be absent. -/
def readText : Option Json → Option (Option String)
  | none => some none
  | some .null => some none
  | some (.str s) => some (some s)
  | some _ => none

def readKind : Option Json → Option Bool
  | none => some false
  | some .null => some false
  | some (.str s) =>
    if s == "compile" then some true else if s == "runtime" then some false else none
  | some _ => none

def readOutput : Option Json → Option String
  | none => some ""
  | some (.str s) => some s
  | some _ => none

/-- A response from its document, if that has its form; other fields do not matter. -/
def ofJson? : Json → Option Response
  | .obj fields => do
    let ok ← readFlag (← Json.field? "ok" fields)
    let compile ← readKind (Json.field? "kind" fields)
    let value ← readText (Json.field? "value" fields)
    let error ← readText (Json.field? "error" fields)
    let output ← readOutput (Json.field? "output" fields)
    some ⟨ok, compile, value, error, output⟩
  | _ => none

/-- How deep a document may nest. -/
def maxDepth : Nat := 200

/-- A response from the text that a worker wrote. -/
def read? (text : String) : Option Response := do
  let j ← Json.read? text
  if maxDepth < j.depth then none else ofJson? j

/-- The document of a response: the value of a success, the kind and the error of a failure. -/
def toJson (r : Response) : Json :=
  let text (t : Option String) : Json := .ofOption t
  if r.ok then .obj [("ok", .bool true), ("value", text r.value), ("output", .str r.output)]
  else
    .obj [("ok", .bool false), ("kind", .str (if r.compile then "compile" else "runtime")),
      ("error", text r.error), ("output", .str r.output)]

/-- The text, unless it is absent or empty. -/
def orElse (t : Option String) (otherwise : String) : String :=
  match t with
  | some s => if s.isEmpty then otherwise else s
  | none => otherwise

def toVerdict (r : Response) : Verdict :=
  if r.ok then .success (orElse r.value "null") r.output
  else
    .failure (orElse r.error "unknown error") (if r.compile then .unreachable else .thrown)
      r.output

end Response

/-! ## Running -/

/-- What became of a process. -/
inductive Ending
  | finished (stdout stderr : String) (exitCode : Int)
  | timedOut
  /-- The process could not be started, for the reason that the text gives. -/
  | notStarted (reason : String)
  deriving DecidableEq

namespace Runner

/-- The options and variables that a worker is started with. -/
def flags : List String := ["-I", "-c"]

def environment : List (String × String) :=
  [("PYTHONIOENCODING", "utf-8"), ("PYTHONDONTWRITEBYTECODE", "1")]

/-- The last three lines of an error text that hold more than blanks. -/
def stderrTail (stderr : String) : String :=
  let lines := (Text.splitLines (Text.trim stderr.toList)).filter fun l => !l.all Text.isBlank
  " | ".intercalate ((lines.drop (lines.length - 3)).map String.ofList)

/-- A limit on time in its shortest form with six digits. -/
def limitText : Option Number → String
  | none => "None"
  | some (.int n) => Decimal.generalText (.ofInt n) 6
  | some (.float x) => Decimal.generalText x 6

/-- The verdict on an ending. -/
def verdictOf (s : SandboxSettings) : Ending → Verdict
  | .timedOut => .failure ("TimeoutError: evaluation exceeded " ++ limitText s.timeout ++ "s")
  | .notStarted reason =>
    .failure ("SandboxError: could not start " ++ s.executable ++ ": " ++ reason)
  | .finished stdout stderr exitCode =>
    match Response.read? stdout with
    | some r => r.toVerdict
    | none =>
      let tail := stderrTail stderr
      .failure ("SandboxError: interpreter exited with code " ++ toString exitCode ++
        if tail.isEmpty then "" else ": " ++ tail)

/-- The request for a call, or what making it came to: a value that does not fit is a failure of
the call, any other error is raised. -/
def prepare (s : SandboxSettings) (codeError : Option String) (call : String) :
    Except Raised (Request ⊕ Verdict) :=
  match codeError with
  | some text => .ok (.inr (.failure ("SandboxError: " ++ text)))
  | none =>
    match Request.make s call with
    | .ok r => .ok (.inl r)
    | .error e =>
      if e.name == "ValueError" then .ok (.inr (.failure ("SandboxError: " ++ e.text)))
      else .error e

/-- The verdict on a call, given how its process ends. -/
def evaluate (s : SandboxSettings) (codeError : Option String) (call : String)
    (process : Request → Ending) : Except Raised Verdict := do
  match ← prepare s codeError call with
  | .inr v => pure v
  | .inl r => pure (verdictOf s (process r))

end Runner

end Exemplar
