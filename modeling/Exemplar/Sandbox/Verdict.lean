import Exemplar.Raised

/-
  Verdicts: what came of one call. A verdict holds the text of a value or of an error, never both,
  and what the call wrote. A call that does not even parse counts as unreachable.
-/

namespace Exemplar

/-- Why a call failed. -/
inductive FailureKind
  | unreachable | thrown
  deriving DecidableEq

namespace FailureKind

def name : FailureKind → String
  | unreachable => "CompileTimeUnreachable"
  | thrown => "RuntimeThrow"

def ofName? (s : String) : Option FailureKind :=
  if s == unreachable.name then some unreachable
  else if s == thrown.name then some thrown
  else none

end FailureKind

/-- What a call came to. -/
inductive Outcome
  | value (text : String)
  | error (text : String)
  deriving DecidableEq

structure Verdict where
  outcome : Outcome
  kind : Option FailureKind := none
  output : String := ""
  deriving DecidableEq

namespace Verdict

def success (value : String) (output : String := "") : Verdict := ⟨.value value, none, output⟩

def failure (error : String) (kind : FailureKind := .thrown) (output : String := "") : Verdict :=
  ⟨.error error, some kind, output⟩

/-- A verdict from a value or an error, of which there has to be one. -/
def ofParts (value error : Option String) (kind : Option FailureKind) : Except Raised Verdict :=
  match value, error with
  | some v, none => .ok ⟨.value v, kind, ""⟩
  | none, some e => .ok ⟨.error e, kind, ""⟩
  | _, _ => .error (.valueError "an evaluation result carries either a value or an error")

/-- The failure of a call that raised before it could be run. -/
def ofRaised (e : Raised) : Verdict := failure e.report

def value? (v : Verdict) : Option String :=
  match v.outcome with
  | .value s => some s
  | .error _ => none

def error? (v : Verdict) : Option String :=
  match v.outcome with
  | .value _ => none
  | .error s => some s

def ok (v : Verdict) : Bool := v.error?.isNone

/-- What is shown after a call. -/
def render (v : Verdict) : String :=
  match v.outcome with
  | .value s => s
  | .error s => "raises " ++ s

end Verdict

end Exemplar
