import Exemplar.Raised

/-
  Random decisions. A source of decisions is a record of five draws over a state of its own, so
  that synthesis can be stated for any source: seeded, scripted, or one that raises.
-/

namespace Exemplar

/-- A computation that draws from a source with state `σ` and may raise. -/
abbrev DrawM (σ : Type) := ExceptT Raised (StateM σ)


/-- A source of random decisions. -/
structure Draws (σ : Type) where
  /-- A short text. -/
  words : DrawM σ String
  /-- An integer from `low` to `high`. -/
  integer : (low high : Int) → DrawM σ Int
  boolean : DrawM σ Bool
  /-- An index below `count`. -/
  choice : (count : Int) → DrawM σ Int
  /-- A length from `low` to `high`. -/
  count : (low high : Int) → DrawM σ Int

namespace Draws

/-- The bounds that an integer is asked for by default. -/
def integerBounds : Int × Int := (-5, 5)

/-- The bounds that a length is asked for by default. -/
def countBounds : Int × Int := (0, 5)

end Draws

end Exemplar
