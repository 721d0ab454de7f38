import Exemplar.Draw.Basic
import Exemplar.Literal
import Exemplar.Settings.Environment
import Exemplar.Shape

/-
  Synthesis: one literal for a shape, every free choice drawn from a source of decisions. The
  recursion follows the shape; containers at the greatest depth are left empty.
-/

namespace Exemplar.Synthesis

variable {σ : Type}

/-- The item at an index; a negative index counts from the end. -/
def item? {α : Type} (xs : List α) (i : Int) : Option α :=
  if 0 ≤ i then xs[i.toNat]?
  else if 0 ≤ i + xs.length then xs[(i + xs.length).toNat]?
  else none

/-- What an index outside a list of choices raises. -/
def outOfRange : Raised := .indexError "tuple index out of range"

/-- Draws one of the items. -/
def pick {α : Type} (d : Draws σ) (xs : List α) : DrawM σ α := do
  let i ← d.choice xs.length
  match item? xs i with
  | some x => pure x
  | none => throw outOfRange

/-- Runs a computation `n` times. -/
def times {α : Type} (x : DrawM σ α) : Nat → DrawM σ (List α)
  | 0 => pure []
  | n + 1 => do
    let a ← x
    let as ← times x n
    pure (a :: as)

/-- The length of a container at a depth. -/
def lengthAt (d : Draws σ) (s : SynthesisSettings) (depth : Nat) : DrawM σ Nat :=
  if s.maxDepth ≤ depth then pure 0
  else do
    let n ← d.count s.countRange.1 s.countRange.2
    pure n.toNat

def number (d : Draws σ) (s : SynthesisSettings) : DrawM σ Literal := do
  let n ← d.integer s.integerRange.1 s.integerRange.2
  pure (.number (.int n))

def text (d : Draws σ) : DrawM σ Literal := do
  let w ← d.words
  pure (.text w)

mutual

/-- A literal for a shape at a depth. -/
def atDepth (d : Draws σ) (s : SynthesisSettings) : Shape → Nat → DrawM σ Literal
  | .plain .text, _ => text d
  | .plain .number, _ => number d s
  | .plain .boolean, _ => do
    let b ← d.boolean
    pure (.boolean b)
  | .none, _ => pure .none
  | .choice values, _ => do
    let v ← pick d values
    pure (Literal.ofScalar v)
  | .list element, depth => do
    let n ← lengthAt d s depth
    let items ← times (atDepth d s element (depth + 1)) n
    pure (.list items)
  | .tuple elements, depth => do
    let items ← eachAtDepth d s elements (depth + 1)
    pure (.tuple items)
  | .mapping key value, depth => do
    let n ← lengthAt d s depth
    let entries ← times (do
      let k ← atDepth d s key (depth + 1)
      let v ← atDepth d s value (depth + 1)
      pure (k.keyForm, v)) n
    pure (.mapping entries)
  | .record fields, depth => do
    let items ← fieldsAtDepth d s fields (depth + 1)
    pure (.record items)
  | .union alternatives, depth => do
    let run ← pick d (choicesAtDepth d s alternatives depth)
    run
  | .named _, _ => pure .none
  | .unknown, _ => do
    let kind ← d.choice 2
    if kind == 0 then text d else number d s

/-- One literal for each shape, in order. -/
def eachAtDepth (d : Draws σ) (s : SynthesisSettings) :
    List Shape → Nat → DrawM σ (List Literal)
  | [], _ => pure []
  | e :: es, depth => do
    let x ← atDepth d s e depth
    let xs ← eachAtDepth d s es depth
    pure (x :: xs)

/-- One named literal for each field, in order. -/
def fieldsAtDepth (d : Draws σ) (s : SynthesisSettings) :
    List (String × Shape) → Nat → DrawM σ (List (String × Literal))
  | [], _ => pure []
  | (name, f) :: fs, depth => do
    let x ← atDepth d s f depth
    let xs ← fieldsAtDepth d s fs depth
    pure ((name, x) :: xs)

/-- The computations for the alternatives of a union, of which one is run. -/
def choicesAtDepth (d : Draws σ) (s : SynthesisSettings) :
    List Shape → Nat → List (DrawM σ Literal)
  | [], _ => []
  | a :: as, depth => atDepth d s a depth :: choicesAtDepth d s as depth

end

/-- A literal for a shape. -/
def synthesize (d : Draws σ) (s : SynthesisSettings) (shape : Shape) : DrawM σ Literal :=
  atDepth d s shape 0

end Exemplar.Synthesis
