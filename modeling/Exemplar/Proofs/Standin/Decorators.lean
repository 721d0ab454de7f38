import Exemplar.Machine.Compile.Stmt
import Exemplar.Proofs.Standin.Runs

/-
  Stand-ins as decorators. A stand-in passes on whatever it is applied to and can be called
  (`State.PassesOn`), in the state in which it was obtained and in all later ones, so any stack of
  them leaves the code behind a definition with the very function that has been defined
  (`Run.loop_decorate`). A stand-in that is called to get a decorator makes another one, with two
  exceptions (`State.MakesDecorator`): it takes a sole argument that can be called for the function
  it decorates, and gives that back; and an argument named after the stand-in is refused.
-/

namespace Exemplar.Machine

open Exec (Ends Answers)

/-! ## Functions -/

/-- An address leads to a declared function. -/
def State.IsFunction (s : State) (v : Value) : Prop :=
  ∃ a o, v = .object a ∧ s.objects[a]? = some o ∧ o.cls = .kind .function ∧
    ∃ f, o.data = .function f

theorem State.IsFunction.canCall {s : State} {v : Value} (h : s.IsFunction v) : s.CanCall v := by
  obtain ⟨a, o, rfl, ho, hcls, f, hdata⟩ := h
  have htype : (Typing.isType (.object a)).run s = .ok false s := by
    refine Exec.bind_run (a := none) ((Exec.bind_run (Exec.dataAt_run ho)).trans ?_)
    rw [hdata]
    rfl
  have hspecial : (Typing.special? (.object a) "__call__").run s =
      .ok (some (.native .function "__call__")) s := by
    refine (Exec.bind_run (Typing.of_run ho)).trans ?_
    rw [hcls]
    have hrole : Kind.function.role? "__call__" = some .slot := by decide +kernel
    show (Typing.find? "__call__" [.kind .function, .kind .object]).run s = _
    unfold Typing.find? Typing.ofKind?
    rw [hrole]
    rfl
  exact (Exec.bind_run htype).trans (Exec.bind_run hspecial)

/-! ## Passing on -/

/-- From now on the value gives back anything that can be called if it is applied to that, and
changes nothing, however deep calls may nest. -/
def State.PassesOn (s : State) (d : Value) : Prop :=
  ∀ t, s.Keeps t → ∀ k f, t.CanCall f → ((Run.engine (k + 1)).call d [f] []).run t = .ok f t

variable {s t : State} {a : Nat} {n : String} {d f : Value} {args : List Value} {named : Fields}

theorem State.PassesOn.later (h : s.PassesOn d) (hk : s.Keeps t) : t.PassesOn d :=
  fun t' hk' => h t' (hk.trans hk')

theorem Slot.callStandin_sole {e : Engine} (hf : s.CanCall f) :
    (callStandin e d [f] []).run s = .ok f s := by
  unfold callStandin
  exact Exec.bind_run hf

theorem State.passesOn_standin (h : s.objects[a]? = some (.standin n)) :
    s.PassesOn (.object a) := by
  intro t hk k f hf
  show (Call.value _ (.object a) [f] []).run t = _
  rw [Call.value_standin (hk.standins h)]
  exact Slot.callStandin_sole hf

/-! ## Making decorators -/

/-- What a call with some arguments comes to, in a state, when it is made to get a decorator: with
an argument named after the stand-in it is refused; a sole argument that can be called is taken for
the function, so that the decorator is that argument; otherwise the decorator passes on. -/
def State.MakesDecorator (s : State) (d : Value) : Prop :=
  ∀ args named,
    (named.lookup "self" ≠ none → ∃ b o t, (Run.machine.call d args named).run s =
      .error (.raised (.object b)) t ∧ t.objects[b]? = some o ∧
        o.cls = .kind (.exception "TypeError")) ∧
    (named.lookup "self" = none → ∃ g t, (Run.machine.call d args named).run s = .ok g t ∧
      s.Keeps t ∧ ((∃ w, args = [w] ∧ named = [] ∧ s.CanCall w ∧ g = w) ∨
        (∀ w, args = [w] → named = [] → ¬s.CanCall w) ∧ t.PassesOn g))

theorem Slot.callStandin_self {e : Engine} (hself : named.lookup "self" ≠ none) :
    Ends (callStandin e d args named) s (fun _ _ => False) fun stop t =>
      ∃ b o, stop = .raised (.object b) ∧ t.objects[b]? = some o ∧
        o.cls = .kind (.exception "TypeError") := by
  unfold callStandin
  rw [if_pos (Option.isSome_iff_ne_none.mpr hself)]
  exact (Exec.raise_ends _ _).raises.bind fun _ _ _ => False.elim

theorem State.makesDecorator_standin (h : s.objects[a]? = some (.standin n)) :
    s.MakesDecorator (.object a) := by
  intro args named
  obtain ⟨e, he⟩ : ∃ e, Run.machine.call = Call.value e := ⟨_, rfl⟩
  rw [he, Call.value_standin h]
  refine ⟨fun hself => ?_, fun hself => ?_⟩
  · have hends : Ends (Slot.callStandin e (.object a) args named) s _ _ :=
      Slot.callStandin_self hself
    cases hrun : (Slot.callStandin e (.object a) args named).run s with
    | ok v t => exact (hends.of_ok hrun).2.elim
    | error stop t =>
      obtain ⟨-, b, o, rfl, ho⟩ := hends.of_error hrun
      exact ⟨b, o, t, rfl, ho⟩
  · obtain ⟨g, t, hrun, hk, hg⟩ := (Slot.callStandin_ends h hself).exists_ok
    refine ⟨g, t, hrun, hk, hg.imp id fun ⟨hnot, b, hb, _, hstandin⟩ => ⟨hnot, ?_⟩⟩
    exact hb ▸ State.passesOn_standin hstandin

/-! ## Stacks of decorators -/

/-- A state in which the program has some steps less. -/
def State.afterSteps (s : State) (k : Nat) : State := { s with steps := s.steps - k }

theorem State.Keeps.afterSteps (s : State) (k : Nat) : s.Keeps (s.afterSteps k) :=
  ⟨fun h => ⟨_, h, .refl _⟩, id, rfl, id⟩

namespace Run

variable {e : Engine} {fr g : Frame} {i : Instr} {rest : Code} {ds st : List Value} {k m : Nat}

theorem tick_run (h : s.steps ≠ 0) : Exec.tick.run s = .ok () (s.afterSteps 1) := by
  refine Exec.bind_eq_ok.mpr ⟨false, s.afterSteps 1, ?_, rfl⟩
  show EStateM.Result.ok (s.steps == 0) _ = _
  rw [beq_eq_false_iff_ne.mpr h]
  rfl

/-- A turn of the loop that carries out an instruction. -/
theorem loop_step (hcode : fr.code = i :: rest)
    (hquick : quick i { fr with code := rest } = .error { fr with code := rest })
    (hstep : (step e i { fr with code := rest }).run (s.afterSteps 1) = .ok (.go g) t)
    (hs : s.steps ≠ 0) :
    (loop e (k + 1) (.go fr)).run s = (loop e k (.go g)).run t := by
  have hguarded : (guarded { fr with code := rest } (raisesAgain i)
      (step e i { fr with code := rest })).run (s.afterSteps 1) = .ok (.go g) t :=
    Exec.catching_eq_ok.mpr (.inl hstep)
  rw [loop, Exec.bind_run (tick_run hs)]
  dsimp only
  rw [hcode]
  dsimp only
  rw [hquick]
  exact Exec.bind_run hguarded

theorem step_decorator (fr : Frame) (rest : Code) (st : List Value)
    (hd : (e.call d [f] []).run s = .ok f s) :
    (step e (.call [.plain]) { fr with code := rest, stack := f :: d :: st }).run s =
      .ok (.go { fr with code := rest, stack := f :: st }) s :=
  (Exec.bind_run (a := f) (t := s) hd).trans rfl

/-- The frame in which a value is to be decorated, with the code behind that. -/
def decorating (fr : Frame) (v : Value) (ds : List Value) (rest : Code) (st : List Value) : Frame :=
  { fr with code := Compile.decorate ds.length ++ rest, stack := v :: ds ++ st }

/-- Code that applies decorators, each of which passes the function on, comes to the code behind it
with the function on the stack, as if there were none. -/
theorem loop_decorating (hf : s.IsFunction f) (hds : ∀ d ∈ ds, s.PassesOn d)
    (hsteps : ds.length ≤ s.steps) :
    (loop (engine (m + 1)) (k + ds.length) (.go (decorating fr f ds rest st))).run s =
      (loop (engine (m + 1)) k (.go (decorating fr f [] rest st))).run
        (s.afterSteps ds.length) := by
  induction ds generalizing s with
  | nil => rfl
  | cons d ds ih =>
    rw [List.length_cons] at hsteps ⊢
    have hlater := State.Keeps.afterSteps s 1
    have hf' : (s.afterSteps 1).IsFunction f := hf
    have hstep := step_decorator fr (Compile.decorate ds.length ++ rest) (ds ++ st)
      (hds d (.head _) _ hlater m f hf'.canCall)
    have hturn : (loop (engine (m + 1)) (k + ds.length + 1)
        (.go (decorating fr f (d :: ds) rest st))).run s =
        (loop (engine (m + 1)) (k + ds.length) (.go (decorating fr f ds rest st))).run
          (s.afterSteps 1) :=
      loop_step rfl rfl hstep (by omega)
    have hleft : ds.length ≤ (s.afterSteps 1).steps := Nat.le_sub_of_add_le hsteps
    rw [← Nat.add_assoc, hturn,
      ih hf' (fun d hd => (hds d (.tail _ hd)).later hlater) hleft]
    have hsum : (s.afterSteps 1).afterSteps ds.length = s.afterSteps (ds.length + 1) := by
      simp only [State.afterSteps, Nat.sub_sub, Nat.add_comm]
    rw [hsum]

end Run

/-- Stand-ins that a program has obtained pass on what they are applied to, and make decorators that
do unless they are called with a sole argument that can be called or with one named `self`. Where
all decorators of a function pass on, the run goes on as if it had none: it comes to the code that
binds the name with that very function on the stack, some steps later. -/
theorem decorators_pass_on {s₀ : State} {done : List Event} (hloaded : s₀.Loaded)
    (h : Runs s₀ done s) :
    (∀ d, Use.Obtained s done d → s.PassesOn d ∧ s.MakesDecorator d) ∧
    ∀ (t : State) (f : Value) (ds : List Value), t.IsFunction f → (∀ d ∈ ds, t.PassesOn d) →
      ds.length ≤ t.steps → ∀ (m k : Nat) (fr : Frame) (rest : Code) (st : List Value),
        (Run.loop (Run.engine (m + 1)) (k + ds.length)
          (.go (Run.decorating fr f ds rest st))).run t =
        (Run.loop (Run.engine (m + 1)) k (.go (Run.decorating fr f [] rest st))).run
          (t.afterSteps ds.length) := by
  obtain ⟨names, htracks⟩ := h.tracks hloaded
  refine ⟨fun d hd => ?_, fun t f ds hf hds hsteps m k fr rest st =>
    Run.loop_decorating hf hds hsteps⟩
  obtain ⟨a, n, rfl, hmem⟩ := htracks.known hd
  have ha := htracks.holds a n hmem
  exact ⟨State.passesOn_standin ha, State.makesDecorator_standin ha⟩

/-- Two decorators of a module that is not there, around a function that is returned then. -/
theorem decorators_pass_on_twice : ∃ done s,
    State.Loaded { steps := 5 } ∧ Runs { steps := 5 } done s ∧
      Use.Obtained s done (.object 2) ∧ s.IsFunction (.object 3) ∧
      (Run.machine.call (.object 2) [.object 3] []).run s = .ok (.object 3) s ∧
      ∃ t, (Run.loop Run.machine 5 (.go (Run.decorating default (.object 3)
        [.object 2, .object 2] [.ret] []))).run s = .ok (.returned (.object 3)) t := by
  let s₀ : State := { steps := 5 }
  let s₁ : State := { s₀ with objects := s₀.objects.push (.standin "m") }
  let g : Function := { code := default, name := "f", qualified := "f" }
  let s : State := { s₁ with
    objects := s₁.objects.push { cls := .kind .function, data := .function g } }
  let done : List Event := [⟨s₀, .importModule "m" 0 false, some (.object 2)⟩]
  have hloaded : s₀.Loaded := nofun
  have hruns : Runs s₀ done s := .meanwhile (.answered .start trivial rfl) (.push s₁ _)
  have hobtained : Use.Obtained s done (.object 2) :=
    ⟨Typing.of_standin (n := "m") rfl, _, .head _, rfl⟩
  have hf : s.IsFunction (.object 3) := ⟨3, _, rfl, rfl, rfl, g, rfl⟩
  obtain ⟨hpass, hstack⟩ := decorators_pass_on hloaded hruns
  have hd := (hpass _ hobtained).1
  refine ⟨done, s, hloaded, hruns, hobtained, hf, hd s (.refl s) 989 _ hf.canCall, ?_⟩
  have hboth : ∀ d ∈ [Value.object 2, .object 2], s.PassesOn d := by
    simpa using hd
  exact ⟨_, (hstack s _ _ hf hboth (by decide) 989 3 default [.ret] []).trans rfl⟩

end Exemplar.Machine
