import Mathlib
import Exemplar.Proofs.Session

/-
  What a session shows apart from verdicts: names, places and the texts of calls. These follow from
  the draws alone. `plan` makes them with no evaluator at all, and every run shows what is planned
  and leaves the source of decisions as the plan does, whatever its evaluator answers or raises
  (`annotateAll_planned`). So two runs from one state of the source can differ in verdicts only
  (`run_independent`).
-/

namespace Exemplar

/-- What an annotation shows besides its verdict. -/
structure Outline where
  name : String
  anchor : Nat
  call : String
  deriving DecidableEq

def Annotation.outline (a : Annotation) : Outline := ⟨a.name, a.anchor, a.call⟩

variable {σ ε ε' : Type}

namespace Evaluator

/-- Whatever the evaluator answers, it raises nothing that ends a program. -/
def RaisesCaught (evaluate : Evaluator ε) : Prop :=
  ∀ m call, DrawM.Ensures (evaluate m call) (fun _ => True) Raised.Caught

theorem Guarded.raisesCaught {evaluate : Evaluator ε} (h : evaluate.Guarded) :
    evaluate.RaisesCaught :=
  fun m call => (h m call).mono fun _ _ => trivial

end Evaluator

namespace Session

/-- The outline of a callable by what building its call came to. -/
def outlined (c : Callable) : Except Raised Call → Except Raised Outline
  | .ok call => .ok ⟨c.name, c.anchor, call.source⟩
  | .error e => Annotation.outline <$> failed c (c.name ++ "(...)") e

/-- The outlines of callables in order, and the state of the source of decisions after them. Each
call is built in the state that the one before it left. -/
def plan (d : Draws σ) (settings : SynthesisSettings) :
    List Callable → σ → Except Raised (List Outline) × σ
  | [], s => (.ok [], s)
  | c :: cs, s =>
    let built := (Call.build d settings c).run s
    match outlined c built.1 with
    | .error e => (.error e, built.2)
    | .ok o =>
      let rest := plan d settings cs built.2
      ((o :: ·) <$> rest.1, rest.2)

/-- The outlines of a run, and the state in which it leaves the source of decisions. -/
def outlines (r : Except Raised (List Annotation) × σ × ε) : Except Raised (List Outline) × σ :=
  (List.map Annotation.outline <$> r.1, r.2.1)

variable {d : Draws σ} {settings : SynthesisSettings} {evaluate : Evaluator ε}
  {evaluate' : Evaluator ε'}

/-- The calls of a plan are those that the draws come to one after the other. -/
theorem plan_builds (cs : List Callable) : ∀ s, (plan d settings cs s).1 =
    (cs.zip (Call.builds d settings cs s)).mapM fun b => outlined b.1 b.2 := by
  induction cs with
  | nil => exact fun _ => rfl
  | cons c cs ih =>
    intro s
    unfold plan Call.builds
    dsimp only
    rw [List.zip_cons_cons, List.mapM_cons]
    dsimp only
    cases outlined c ((Call.build d settings c).run s).1 with
    | error e => rfl
    | ok o =>
      dsimp only
      rw [ih]
      rfl

/-- One callable is annotated as it is planned: an evaluator has a say in the verdict alone. -/
theorem annotate_planned (he : evaluate.RaisesCaught) (d : Draws σ) (settings : SynthesisSettings)
    (m : Module) (c : Callable) (s : σ) (t : ε) :
    Annotation.outline <$> (annotate d settings evaluate m c (s, t)).1 =
        outlined c ((Call.build d settings c).run s).1 ∧
      (annotate d settings evaluate m c (s, t)).2.1 = ((Call.build d settings c).run s).2 := by
  unfold annotate
  cases hb : (Call.build d settings c).run s with
  | mk r s' =>
    cases r with
    | error e => exact ⟨rfl, rfl⟩
    | ok call =>
      dsimp only
      cases hv : (evaluate m call.source).run t with
      | mk r t' =>
        cases r with
        | ok v => exact ⟨rfl, rfl⟩
        | error e =>
          have hc : e.Caught := (he m call.source).raised hv
          dsimp only
          rw [failed_of_caught hc]
          exact ⟨rfl, rfl⟩

/-- By induction on the callables: each finds the source of decisions as it is planned. -/
theorem annotateAll_planned (he : evaluate.RaisesCaught) (d : Draws σ)
    (settings : SynthesisSettings) (m : Module) (cs : List Callable) : ∀ (s : σ) (t : ε),
      outlines (annotateAll d settings evaluate m cs (s, t)) = plan d settings cs s := by
  induction cs with
  | nil => exact fun _ _ => rfl
  | cons c cs ih =>
    intro s t
    obtain ⟨houtline, hstate⟩ := annotate_planned he d settings m c s t
    unfold annotateAll plan
    dsimp only
    rw [← houtline, ← hstate]
    cases ha : annotate d settings evaluate m c (s, t) with
    | mk r states =>
      obtain ⟨s', t'⟩ := states
      cases r with
      | error e => rfl
      | ok a =>
        have hrest := ih s' t'
        cases has : annotateAll d settings evaluate m cs (s', t') with
        | mk r states =>
          rw [has] at hrest
          simp only [has, ← hrest]
          cases r <;> rfl

/-- Two runs of a module from one state of the source of decisions, with any two evaluators, show
the same names, places and calls and leave that source in the same state. The calls, and so their
arguments, are what the draws alone come to. -/
theorem run_independent (he : evaluate.RaisesCaught) (he' : evaluate'.RaisesCaught) (d : Draws σ)
    (settings : SynthesisSettings) (m : Module) (s : σ) (t : ε) (t' : ε') :
    List.map Annotation.outline <$> (run d settings evaluate m (s, t)).1 =
        List.map Annotation.outline <$> (run d settings evaluate' m (s, t')).1 ∧
      (run d settings evaluate m (s, t)).2.1 = (run d settings evaluate' m (s, t')).2.1 ∧
      ∀ cs, Callables.ofFile m.text m.body = .ok cs →
        List.map Annotation.outline <$> (run d settings evaluate m (s, t)).1 =
          (cs.zip (Call.builds d settings cs s)).mapM fun b => outlined b.1 b.2 := by
  unfold run
  cases hcs : Callables.ofFile m.text m.body with
  | error f => exact ⟨rfl, rfl, nofun⟩
  | ok cs =>
    have first := annotateAll_planned he d settings m cs s t
    have second := annotateAll_planned he' d settings m cs s t'
    have both := first.trans second.symm
    refine ⟨congrArg Prod.fst both, congrArg Prod.snd both, fun cs' h => ?_⟩
    cases h
    exact (congrArg Prod.fst first).trans (plan_builds cs s)

end Session

/-- Draws of which each answers by how many went before it. -/
def Draws.rising : Draws Nat where
  words := counted fun n => String.ofList (List.replicate n 'x')
  integer low high := counted fun n => min high (low + n)
  boolean := counted fun n => n % 2 == 1
  choice count := counted fun n => n % count
  count low high := counted fun n => min high (low + n)
where
  counted {α : Type} (answer : Nat → α) : DrawM Nat α := modifyGet fun n => (answer n, n + 1)

/-- Answers every call in the same way. -/
def Evaluator.constant : Evaluator Unit := fun _ _ => pure (.success "0")

theorem Evaluator.constant_raisesCaught : Evaluator.constant.RaisesCaught :=
  fun _ _ => .pure trivial

namespace Session

/-- A function of one truth value on a line of its own. -/
def functionOfTruth (name : String) (line : Nat) : Stmt :=
  let x : TreeParameter := .mk .ordinary "x" (some (.mk line (.name "bool"))) none line
  .mk (.function false name [x] none [] []) ⟨line, 0⟩ ⟨line, 17⟩

def twoFunctions : Module where
  filename := ""
  text := "def f(x: bool): 0\ndef g(x: bool): 0".toList
  body := [functionOfTruth "f" 1, functionOfTruth "g" 2]

theorem outlines_constant : outlines (run Draws.rising {} .constant twoFunctions (0, ())) =
    (.ok [⟨"f", 0, "f(False)"⟩, ⟨"g", 18, "g(True)"⟩], 2) := by
  cbv

/-- The evaluator of the second run raises for the first function and answers for the other. -/
theorem run_independent_alternating :
    Evaluator.constant.RaisesCaught ∧ Evaluator.alternating.RaisesCaught ∧
    List.map Annotation.outline <$>
        (run Draws.rising {} .alternating twoFunctions (0, true)).1 =
      .ok [⟨"f", 0, "f(False)"⟩, ⟨"g", 18, "g(True)"⟩] ∧
    (run Draws.rising {} .alternating twoFunctions (0, true)).2.1 = 2 := by
  have hconstant := Evaluator.constant_raisesCaught
  have halternating := Evaluator.alternating_guarded.raisesCaught
  obtain ⟨hshown, hstate, -⟩ :=
    run_independent halternating hconstant Draws.rising {} twoFunctions 0 true ()
  refine ⟨hconstant, halternating, hshown.trans ?_, hstate.trans ?_⟩
  · exact congrArg Prod.fst outlines_constant
  · exact congrArg Prod.snd outlines_constant

end Session

end Exemplar
