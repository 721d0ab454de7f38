import Exemplar.Draw.Seeded
import Exemplar.Sandbox.Worker
import Exemplar.Session

/-
  Evaluation of calls in workers, and sessions that draw from a seed.
-/

namespace Exemplar

/-- The evaluator that gives each call to a worker of its own; it has no state. -/
def Worker.evaluator {ε : Type} (s : SandboxSettings) : Evaluator ε :=
  fun m call => MonadExcept.ofExcept (Runner.evaluate s none call (Worker.processOf s m))

/-- The annotations of a module from a seed, which that of the settings replaces. -/
def Session.annotations (seed : Int) (s : Settings) (m : Module) :
    Except Raised (List Annotation) :=
  (Session.run (Seeded.draws vocabulary.toArray) s.synthesis (Worker.evaluator s.sandbox) m
    (Twister.ofSeed (s.seed.getD seed), ())).1

end Exemplar
