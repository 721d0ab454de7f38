import Exemplar.Decimal.Numeral
import Exemplar.Fault
import Exemplar.Literal

/-
  Settings and their requirements. A setting is checked when the record that holds it is made, the
  first that fails being the one reported.

  Settings from the environment and the command line. A variable that is set and not blank
  overrides a setting that is left at its default; a variable that cannot be read is a fault even
  where it overrides nothing.
-/

namespace Exemplar

namespace Number

def shown : Number → Shown
  | .int n => .same (toString n)
  | .float x => .same (Decimal.floatText x)

/-- Whether the number is at most zero; no number is not. -/
def atMostZero : Number → Bool
  | .int n => n ≤ 0
  | .float x => !x.isNaN && (x.negative || x.isZero)

/-- Whether two numbers have the same value. -/
def same (a b : Number) : Bool :=
  let scalar : Number → Scalar := fun
    | .int n => .int n
    | .float x => .float x
  (scalar a).equal (scalar b)

end Number

/-- A pair of bounds as it is shown. -/
def shownBounds (b : Int × Int) : Shown :=
  .same ("(" ++ toString b.1 ++ ", " ++ toString b.2 ++ ")")

/-- How literals are synthesized: bounds for numbers and for the length of containers, and the
depth at which containers are left empty. -/
structure SynthesisSettings where
  integerRange : Int × Int := (-5, 5)
  countRange : Int × Int := (0, 5)
  maxDepth : Int := 6
  deriving DecidableEq

namespace SynthesisSettings

def boundsFault (key : String) (b : Int × Int) : Fault :=
  .invalidSetting key (shownBounds b) "a (low, high) pair with low <= high"

/-- The settings, if they meet all requirements. -/
def checked (s : SynthesisSettings) : Except Fault SynthesisSettings :=
  if s.integerRange.2 < s.integerRange.1 then
    .error (boundsFault "integer_range" s.integerRange)
  else if s.countRange.2 < s.countRange.1 then .error (boundsFault "count_range" s.countRange)
  else if s.countRange.1 < 0 then
    .error (.invalidSetting "count_range" (shownBounds s.countRange) "non-negative bounds")
  else if s.maxDepth < 0 then
    .error (.invalidSetting "max_depth" (.same (toString s.maxDepth)) "a non-negative integer")
  else .ok s

end SynthesisSettings

/-- How calls are run: limits on time, memory and output, none where absent, the modules that may
really be imported and the interpreter to start. -/
structure SandboxSettings where
  timeout : Option Number := some (.float (.ofInt 5))
  memoryLimit : Option Int := some 512
  allowedImports : List String := []
  executable : String := "python3"
  maxOutput : Int := 4096
  deriving DecidableEq

namespace SandboxSettings

/-- The settings, if they meet all requirements. -/
def checked (s : SandboxSettings) : Except Fault SandboxSettings :=
  match s.timeout.filter Number.atMostZero with
  | some t => .error (.invalidSetting "timeout_seconds" t.shown "a positive number or None")
  | none =>
  match s.memoryLimit.filter (· ≤ 0) with
  | some m =>
    .error (.invalidSetting "memory_limit_mb" (.same (toString m)) "a positive integer or None")
  | none =>
  if s.maxOutput < 0 then
    .error (.invalidSetting "max_output_chars" (.same (toString s.maxOutput))
      "a non-negative integer")
  else .ok s

end SandboxSettings

/-- All settings of a session. -/
structure Settings where
  synthesis : SynthesisSettings := {}
  sandbox : SandboxSettings := {}
  seed : Option Int := none
  deriving DecidableEq

/-! ## From the environment -/

/-- Environment variables by name. -/
abbrev Environment := List (String × String)

namespace Environment

def timeoutName : String := "INSTANTCODE_TIMEOUT"
def memoryLimitName : String := "INSTANTCODE_MEMORY_LIMIT_MB"
def seedName : String := "INSTANTCODE_SEED"

/-- The value of a variable that is set and not blank. -/
def value? (env : Environment) (name : String) : Option String :=
  (env.lookup name).filter fun raw => !(Text.strip raw).isEmpty

/-- The integer that a text writes; texts of more than 4300 digits are not read. -/
def integer? (raw : String) : Option Int :=
  if 4300 < Numeral.digitCount raw.toList then none else Numeral.readInt? raw.toList

/-- The value of a variable through a reader; `type` names what it reads. -/
def read? {α : Type} (env : Environment) (name type : String) (reader : String → Option α) :
    Except Fault (Option α) :=
  match env.value? name with
  | none => .ok none
  | some raw =>
    match reader raw with
    | some a => .ok (some a)
    | none => .error (.invalidSetting name (.ofText raw) ("a value parseable as " ++ type))

end Environment

namespace Settings

def defaultSandbox : SandboxSettings := {}

/-- Whether the limit on time is the default one. -/
def timeoutIsDefault (s : SandboxSettings) : Bool :=
  match s.timeout, defaultSandbox.timeout with
  | some a, some b => a.same b
  | _, _ => false

/-- The settings with the environment's overrides applied to what is left at its default. -/
def withEnvironment (env : Environment) (s : Settings) : Except Fault Settings := do
  let timeout ← env.read? Environment.timeoutName "float" fun raw => Numeral.readFloat? raw.toList
  let s ← match timeout with
    | some t =>
      if timeoutIsDefault s.sandbox then do
        let sandbox ← { s.sandbox with timeout := some (.float t) : SandboxSettings }.checked
        pure { s with sandbox := sandbox }
      else pure s
    | none => pure s
  let memory ← env.read? Environment.memoryLimitName "int" Environment.integer?
  let s ← match memory with
    | some m =>
      if s.sandbox.memoryLimit == defaultSandbox.memoryLimit then do
        let sandbox ← { s.sandbox with memoryLimit := some m : SandboxSettings }.checked
        pure { s with sandbox := sandbox }
      else pure s
    | none => pure s
  match s.seed with
  | some _ => pure s
  | none => do
    let seed ← env.read? Environment.seedName "int" Environment.integer?
    pure { s with seed := seed }

/-- The settings of a session from parts that are checked before the environment is read. -/
def build (env : Environment) (synthesis : SynthesisSettings) (sandbox : SandboxSettings)
    (seed : Option Int) : Except Fault Settings := do
  let synthesis ← synthesis.checked
  let sandbox ← sandbox.checked
  withEnvironment env ⟨synthesis, sandbox, seed⟩

/-- What the command line can set; absent options keep their defaults. -/
structure Options where
  seed : Option Int := none
  timeout : Option Number := none
  memoryLimit : Option Int := none
  allowedImports : List String := []

/-- The settings for the options of the command line. -/
def ofOptions (env : Environment) (o : Options) : Except Fault Settings := do
  let sandbox ← SandboxSettings.checked
    { defaultSandbox with
      timeout := o.timeout.orElse fun _ => defaultSandbox.timeout
      memoryLimit := o.memoryLimit.orElse fun _ => defaultSandbox.memoryLimit
      allowedImports := o.allowedImports }
  withEnvironment env { sandbox := sandbox, seed := o.seed }

end Settings

end Exemplar
