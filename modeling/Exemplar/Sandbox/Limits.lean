import Exemplar.Sandbox.ExceptionClass
import Exemplar.Sandbox.Runner

/-
  The limits that a worker puts on itself before it runs anything. A limit never exceeds the hard
  limit that is in force, and one that the system refuses is left as it is.
-/

namespace Exemplar.Limits

/-- The resources that are limited. -/
inductive Resource
  | memory | processor
  deriving DecidableEq

def Resource.name : Resource → String
  | memory => "AS"
  | processor => "CPU"

/-- The hard limit that stands for none. -/
def unlimited : Int := -1

/-- A limit that is asked of the system: the soft and the hard one. -/
structure Setting where
  resource : Resource
  soft : Number
  hard : Int
  deriving DecidableEq

/-- What a system makes of limits: the hard limits in force, and the class of the exception that
it refuses a setting with. -/
structure System where
  hard : Resource → Int
  refusal : Resource → Option String

/-- Whether a number counts as given; zero does not. -/
def isGiven : Number → Bool
  | .int n => n != 0
  | .float x => !x.isZero

/-- As many bytes as a number of megabytes has. -/
def bytesOf : Number → Number
  | .int n => .int (n * 1024 * 1024)
  | .float x => .float (.ofFloat (x.toFloat * 1024 * 1024))

/-- The limits to set: memory in bytes, whole seconds of processor time. -/
def wanted (memory seconds : Option Number) : Except Raised (List (Resource × Number)) := do
  let first := match memory with
    | some m => if isGiven m then [(Resource.memory, bytesOf m)] else []
    | none => []
  match seconds with
  | some s =>
    if isGiven s then do
      let n ← Request.ceiling s
      pure (first ++ [(.processor, .int n)])
    else pure first
  | none => pure first

/-- Whether a number is greater than an integer. -/
def exceeds (x : Number) (n : Int) : Bool :=
  match x with
  | .int m => n < m
  | .float x =>
    if x.isFinite then
      let (num, den) := x.magnitude
      n * den < (if x.negative then -(num : Int) else num)
    else x.isInfinite && !x.negative

/-- The setting for a limit under a hard one. -/
def settingFor (sys : System) (r : Resource) (soft : Number) : Setting :=
  let hard := sys.hard r
  ⟨r, if hard != unlimited && exceeds soft hard then .int hard else soft, hard⟩

/-- Whether a refusal leaves the limit as it is instead of ending the worker. -/
def isForgiven (name : String) : Bool :=
  ExceptionClass.extends? name "ValueError" || ExceptionClass.extends? name "OSError"

/-- The settings asked for, in order, up to a refusal that is not forgiven. -/
def settle (sys : System) : List (Resource × Number) → List Setting × Option Raised
  | [] => ([], none)
  | (r, soft) :: rest =>
    let own := settingFor sys r soft
    match sys.refusal r with
    | some name =>
      if isForgiven name then
        let (more, e) := settle sys rest
        (own :: more, e)
      else ([own], some ⟨name, "refused"⟩)
    | none =>
      let (more, e) := settle sys rest
      (own :: more, e)

/-- What a worker asks of the system for its limits, and the error that ends it, if one does. A
system without limits is asked for nothing. -/
def apply (sys? : Option System) (memory seconds : Option Number) :
    List Setting × Option Raised :=
  match sys? with
  | none => ([], none)
  | some sys =>
    match wanted memory seconds with
    | .error e => ([], some e)
    | .ok limits => settle sys limits

end Exemplar.Limits
