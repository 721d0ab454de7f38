import Exemplar.Proofs.Callables
import Exemplar.Proofs.LineIndex
import Exemplar.Proofs.Sandbox.Runner
import Exemplar.Sandbox.Evaluation

/-
  Sessions from a seed, with a worker for each call. Neither the draws of the generator nor the
  evaluation in a worker raises anything that ends a program, so a session has an annotation for
  each callable, in order, as soon as all declarations of the module can be read.
-/

namespace Exemplar

open DrawM (Ensures)

/-! ## Draws -/

namespace Seeded

variable {α : Type} {bad : Raised → Prop}

theorem lift_ensures (f : Twister.State → α × Twister.State) :
    Ensures (lift f) (fun _ => True) bad := fun _ => trivial

theorem between_ensures (hb : ∀ text, bad (.valueError text)) (low high : Int) :
    Ensures (between low high) (fun _ => True) bad := by
  unfold between
  by_cases h : 0 < high + 1 - low
  · simp only [h, if_true]
    exact .bind (lift_ensures _) fun r _ => .pure trivial
  · simp only [h, if_false]
    exact .throw (hb _)

theorem index_ensures (hb : ∀ text, bad (.valueError text)) (count : Int) :
    Ensures (index count) (fun _ => True) bad := by
  unfold index
  split
  · exact .bind (lift_ensures _) fun r _ => .pure trivial
  · exact .throw (hb _)

theorem word_ensures (hb : ∀ text, bad (.indexError text)) (vocabulary : Array String) :
    Ensures (word vocabulary) (fun _ => True) bad := by
  unfold word
  split
  · exact .throw (hb _)
  · exact .bind (lift_ensures _) fun r _ => .pure trivial

theorem phrase_ensures (hv : ∀ text, bad (.valueError text)) (hi : ∀ text, bad (.indexError text))
    (vocabulary : Array String) : Ensures (phrase vocabulary) (fun _ => True) bad := by
  unfold phrase
  refine .bind (between_ensures hv 1 2) fun size _ => .bind (word_ensures hi _) fun first _ => ?_
  split
  · exact .pure trivial
  · exact .bind (word_ensures hi _) fun second _ => .pure trivial

theorem draws_raisesOnly (vocabulary : Array String) :
    (draws vocabulary).RaisesOnly Raised.Caught where
  words := phrase_ensures (fun _ => rfl) (fun _ => rfl) vocabulary
  integer := between_ensures fun _ => rfl
  boolean := lift_ensures _
  choice := index_ensures fun _ => rfl
  count := between_ensures fun _ => rfl

end Seeded

/-! ## Evaluation -/

theorem Response.toVerdict_made (r : Response) : r.toVerdict.Made := by
  unfold toVerdict
  split
  · exact .inl ⟨_, _, rfl⟩
  · exact .inr ⟨_, _, _, rfl⟩

theorem Runner.verdictOf_made (s : SandboxSettings) (ending : Ending) :
    (verdictOf s ending).Made := by
  rcases verdictOf_cases s ending with ⟨stdout, stderr, exitCode, r, rfl, hr⟩ | ⟨-, text, -, h⟩
  · rw [verdictOf_response hr]
    exact r.toVerdict_made
  · rw [h]
    exact .inr ⟨text, .thrown, "", rfl⟩

theorem Worker.evaluator_guarded {ε : Type} (s : SandboxSettings) :
    (Worker.evaluator s : Evaluator ε).Guarded := by
  intro m call t
  unfold evaluator Runner.evaluate
  rcases Runner.prepare_cases s none call with ⟨q, hq⟩ | ⟨text, hq⟩ | ⟨e, hq, hname, -⟩
  · rw [hq]
    exact Runner.verdictOf_made s _
  · rw [hq]
    exact .inr ⟨_, .thrown, "", rfl⟩
  · rw [hq]
    show e.Caught
    unfold Raised.Caught
    rw [hname]
    rfl

/-! ## Sessions -/

namespace Callables

/-- What the statements of a module declare that can be called. -/
def declarations (m : Module) : List Declared := m.body.filterMap (declared? (.ofText m.text))

theorem anchor_le {m : Module} {d : Declared} (h : d ∈ declarations m) :
    d.anchor ≤ m.text.length := by
  obtain ⟨s, -, hs⟩ := List.mem_filterMap.mp h
  rw [(span_of_declared hs).1, ← LineIndex.size_ofText]
  exact LineIndex.offset_le _ _ _

end Callables

namespace Session

/-- A session answers one annotation for each declaration, in order. -/
theorem annotations_eq (seed : Int) (s : Settings) {m : Module}
    (h : ∀ d ∈ Callables.declarations m, d.Readable (.ofStmts m.body)) :
    ∃ as, annotations seed s m = .ok as ∧
      as.map (fun a => (a.name, a.anchor)) =
        (Callables.declarations m).map fun d => (d.name, d.anchor) := by
  have hread : Callables.ofFile m.text m.body = .ok _ :=
    (Callables.Declared.read_answers.list _ _).mpr ⟨h, rfl⟩
  obtain ⟨as, is, s', t', has, -, hall⟩ := annotateAll_account
    (Seeded.draws_raisesOnly vocabulary.toArray) (Worker.evaluator_guarded s.sandbox) s.synthesis m
    ((Callables.declarations m).map (Callables.Declared.callable (.ofStmts m.body)))
    (Twister.ofSeed (s.seed.getD seed)) () []
  refine ⟨as, ?_, ?_⟩
  · unfold annotations run
    rw [hread]
    exact congrArg Prod.fst has
  · rw [hall.sites, List.map_map]
    rfl

end Session

end Exemplar
