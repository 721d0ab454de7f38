import Exemplar.Call
import Exemplar.Callables
import Exemplar.Sandbox.Verdict
import Exemplar.Source.Module

/-
  Sessions: from a source file to one annotation per callable. Callables are taken in the order of
  their declarations; what fails for one of them becomes its annotation, and the next one is
  taken with the source of decisions as that failure left it.
-/

namespace Exemplar

/-- The verdict on a call of a module, by an evaluator with a state of its own that may raise. -/
abbrev Evaluator (ε : Type) := Module → String → ExceptT Raised (StateM ε) Verdict

/-- What is shown of a callable: an example call and the verdict on it. -/
structure Annotation where
  name : String
  anchor : Nat
  call : String
  verdict : Verdict

/-- The call and what came of it. -/
def Annotation.display (a : Annotation) : String := a.call ++ " => " ++ a.verdict.render

namespace Session

/-- Whether a class of exceptions is meant to end a program. -/
def endsProgram (name : String) : Bool :=
  ["BaseException", "SystemExit", "KeyboardInterrupt", "GeneratorExit"].contains name

/-- The annotation after an error that ends no program. -/
def failed (c : Callable) (call : String) (e : Raised) : Except Raised Annotation :=
  if endsProgram e.name then .error e else .ok ⟨c.name, c.anchor, call, .ofRaised e⟩

/-- The annotation of a callable, from the states of both the source of decisions and the
evaluator, and these states after it. -/
def annotate {σ ε : Type} (draws : Draws σ) (settings : SynthesisSettings)
    (evaluate : Evaluator ε) (m : Module) (c : Callable) (states : σ × ε) :
    Except Raised Annotation × σ × ε :=
  match (Call.build draws settings c).run states.1 with
  | (.error e, s) => (failed c (c.name ++ "(...)") e, s, states.2)
  | (.ok call, s) =>
    match (evaluate m call.source).run states.2 with
    | (.ok v, t) => (.ok ⟨c.name, c.anchor, call.source, v⟩, s, t)
    | (.error e, t) => (failed c call.source e, s, t)

/-- The annotations of callables in order. -/
def annotateAll {σ ε : Type} (draws : Draws σ) (settings : SynthesisSettings)
    (evaluate : Evaluator ε) (m : Module) :
    List Callable → σ × ε → Except Raised (List Annotation) × σ × ε
  | [], states => (.ok [], states)
  | c :: cs, states =>
    match annotate draws settings evaluate m c states with
    | (.error e, states) => (.error e, states)
    | (.ok a, states) =>
      match annotateAll draws settings evaluate m cs states with
      | (.ok as, states) => (.ok (a :: as), states)
      | (.error e, states) => (.error e, states)

/-- The error that reading a hint raises. -/
def hintRaised : HintFault → Raised
  | .nullCharacter => .valueError nullCharacterMessage
  | .unwritable why => why.raised

/-- The annotations of a module. -/
def run {σ ε : Type} (draws : Draws σ) (settings : SynthesisSettings) (evaluate : Evaluator ε)
    (m : Module) (states : σ × ε) : Except Raised (List Annotation) × σ × ε :=
  match Callables.ofFile m.text m.body with
  | .error f => (.error (hintRaised f), states)
  | .ok cs => annotateAll draws settings evaluate m cs states

end Session

end Exemplar
