import Exemplar.Draw.Basic

/-
  Decisions replayed from queues, one for each kind. A queue that has run dry gives a fixed answer:
  a set word, the integer nearest to zero, truth, the first alternative, the lower bound.
-/

namespace Exemplar

/-- The answers still to give, and the kinds of decision asked for so far, last first. -/
structure Script where
  words : List String := []
  integers : List Int := []
  booleans : List Bool := []
  choices : List Int := []
  counts : List Int := []
  asked : List String := []

namespace Script

/-- The kinds of decision asked for, in order. -/
def calls (s : Script) : List String := s.asked.reverse

def note (kind : String) (s : Script) : Script := { s with asked := kind :: s.asked }

/-- Answers a draw of one kind and leaves the rest of its queue. -/
def answer {α : Type} (kind : String) (f : Script → Except Raised α × Script) : DrawM Script α :=
  ExceptT.mk (StateT.mk fun s => f (s.note kind))

/-- The decisions of a script. -/
def draws : Draws Script where
  words := answer "words" fun s => match s.words with
    | w :: r => (.ok w, { s with words := r })
    | [] => (.ok "foo", s)
  integer low high := answer "integer" fun s => match s.integers with
    | n :: r => (.ok n, { s with integers := r })
    | [] => (.ok (min (max 0 low) high), s)
  boolean := answer "boolean" fun s => match s.booleans with
    | b :: r => (.ok b, { s with booleans := r })
    | [] => (.ok true, s)
  choice count := answer "choice" fun s => match s.choices with
    | n :: r =>
      (if count == 0 then .error ⟨"ZeroDivisionError", "integer modulo by zero"⟩
        else .ok (Int.fmod n count), { s with choices := r })
    | [] => (.ok 0, s)
  count low _ := answer "count" fun s => match s.counts with
    | n :: r => (.ok n, { s with counts := r })
    | [] => (.ok low, s)

end Script

end Exemplar
