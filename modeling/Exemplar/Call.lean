import Exemplar.Shape
import Exemplar.Synthesis

/-
  Calls: a callable with one synthesized literal for each parameter, drawn in the order of the
  parameters; those that are passed by name follow the others.
-/

namespace Exemplar

/-- A call as source text, where its callable is declared, and its arguments by parameter. -/
structure Call where
  source : String
  position : Nat
  arguments : List (String × Literal)
  deriving Inhabited

namespace Call

/-- The expression that passes the arguments. -/
def expr (name : String) (args : List (ShapedParameter × Literal)) : Expr :=
  let byName := args.filter (·.1.keywordOnly)
  let byPlace := args.filter (!·.1.keywordOnly)
  .call (.name name) (byPlace.map (·.2.toExpr))
    (byName.map fun a => .mk (some a.1.name) a.2.toExpr)

/-- One literal for each parameter, in order. -/
def draw {σ : Type} (d : Draws σ) (s : SynthesisSettings) :
    List ShapedParameter → DrawM σ (List (ShapedParameter × Literal))
  | [] => pure []
  | p :: ps => do
    let l ← Synthesis.synthesize d s p.shape
    let ls ← draw d s ps
    pure ((p, l) :: ls)

/-- An example call of a callable, unless it cannot be written. -/
def build {σ : Type} (d : Draws σ) (s : SynthesisSettings) (c : Callable) : DrawM σ Call := do
  let args ← draw d s c.parameters
  match Syntax.source (expr c.name args) with
  | .ok source => pure ⟨source, c.anchor, args.map fun a => (a.1.name, a.2)⟩
  | .error e => throw e

end Call

end Exemplar
