import Exemplar.Proofs.Synthesis
import Exemplar.Session

/-
  What a session answers. Building a call and evaluating it may each fail for any callable; neither
  failure costs another callable its annotation. The evaluator is watched by a record of its
  invocations (`Evaluator.recorded`), and `Accounts` relates the builds of a run, the invocations
  that it recorded and the annotations that it answered. Each step adds one callable to that
  relation (`annotate_step`), so a whole run is one induction over the callables.
-/

namespace Exemplar

/-- Whether an exception is caught where a call fails: all are but those that end a program. -/
def Raised.Caught (e : Raised) : Prop := Session.endsProgram e.name = false

namespace Verdict

/-- Verdicts as evaluators make them. -/
def Made (v : Verdict) : Prop :=
  (∃ value output, v = .success value output) ∨ ∃ error kind output, v = .failure error kind output

/-- A verdict holds either a value or an error, and a kind unless it holds a value. -/
def Decided (v : Verdict) : Prop :=
  (v.value?.isSome ↔ ¬ v.error?.isSome) ∧ (v.kind = none ↔ v.value?.isSome)

theorem Made.decided {v : Verdict} (h : v.Made) : v.Decided := by
  rcases h with ⟨value, output, rfl⟩ | ⟨error, kind, output, rfl⟩
  · simp [Decided, success, value?, error?]
  · simp [Decided, failure, value?, error?]

theorem ofRaised_made (e : Raised) : (ofRaised e).Made := .inr ⟨e.report, .thrown, "", rfl⟩

end Verdict

/-- One call of an evaluator and what it answered. -/
structure Invocation where
  module : Module
  call : String
  answer : Except Raised Verdict

variable {σ ε : Type}

namespace Evaluator

/-- An evaluator that answers verdicts as they are made, and raises nothing that ends a program. -/
def Guarded (evaluate : Evaluator ε) : Prop :=
  ∀ m call, DrawM.Ensures (evaluate m call) Verdict.Made Raised.Caught

/-- The evaluator with a record of its invocations, in order. -/
def recorded (evaluate : Evaluator ε) : Evaluator (ε × List Invocation) := fun m call =>
  ExceptT.mk (StateT.mk fun t =>
    let r := (evaluate m call).run t.1
    (r.1, r.2, t.2 ++ [⟨m, call, r.1⟩]))

theorem run_recorded (evaluate : Evaluator ε) (m : Module) (call : String) (t : ε)
    (log : List Invocation) :
    (evaluate.recorded m call).run (t, log) =
      (((evaluate m call).run t).1, ((evaluate m call).run t).2,
        log ++ [⟨m, call, ((evaluate m call).run t).1⟩]) := rfl

end Evaluator

/-! ## Builds -/

namespace Call

variable {d : Draws σ} {settings : SynthesisSettings}

/-- What building a call for each callable comes to, each from the state that the one before it
left, whether or not it failed. -/
def builds (d : Draws σ) (settings : SynthesisSettings) :
    List Callable → σ → List (Except Raised Call)
  | [], _ => []
  | c :: cs, s =>
    let r := (build d settings c).run s
    r.1 :: builds d settings cs r.2

/-- The calls among what was built. -/
def built (bs : List (Except Raised Call)) : List Call := bs.filterMap Except.toOption

theorem source_caught {e : Expr} {why : Raised} (h : Syntax.source e = .error why) :
    why.Caught := by
  unfold Syntax.source at h
  split at h
  · rename_i r _
    cases h
    cases r <;> rfl
  · cases h

theorem supplies_of_raisesOnly {bad : Raised → Prop} (hd : d.RaisesOnly bad)
    (hb : bad Synthesis.outOfRange) :
    Synthesis.Supplies d settings (fun _ => True) (fun _ _ => True) bad where
  words := hd.words
  integer := hd.integer _ _
  boolean := hd.boolean
  kind := hd.choice 2
  pick xs _ := by
    refine .bind (hd.choice _) fun i _ => ?_
    cases hx : Synthesis.item? xs i with
    | none => exact .throw hb
    | some x => exact .pure (Synthesis.mem_of_item? hx)
  lengthAt depth := by
    unfold Synthesis.lengthAt
    split
    · exact .pure trivial
    · exact .bind (hd.count _ _) fun _ _ => .pure trivial

theorem draw_ensures {number : Int → Prop} {length : Nat → Nat → Prop} {bad : Raised → Prop}
    (h : Synthesis.Supplies d settings number length bad) (ps : List ShapedParameter)
    (ho : bad Synthesis.outOfRange ∨ ∀ p ∈ ps, p.shape.Offers) :
    DrawM.Ensures (draw d settings ps)
      (fun args => args.map Prod.fst = ps ∧
        ∀ a ∈ args, Synthesis.Conforms number length a.1.shape 0 a.2) bad := by
  induction ps with
  | nil => exact .pure ⟨rfl, fun a ha => absurd ha List.not_mem_nil⟩
  | cons p ps ih =>
    have hp := Synthesis.atDepth_ensures h p.shape 0
      (ho.imp_right fun hs => hs p List.mem_cons_self)
    have hps := ih (ho.imp_right fun hs q hq => hs q (List.mem_cons_of_mem _ hq))
    unfold draw
    refine .bind hp fun l hl => .bind hps fun ls hls => .pure ⟨?_, ?_⟩
    · rw [List.map_cons, hls.1]
    · exact List.forall_mem_cons.mpr ⟨hl, hls.2⟩

/-- A call that is built passes one literal for each parameter, in order, and has the text of its
expression. -/
theorem build_ensures {number : Int → Prop} {length : Nat → Nat → Prop} {bad : Raised → Prop}
    (h : Synthesis.Supplies d settings number length bad) (c : Callable)
    (ho : bad Synthesis.outOfRange ∨ ∀ p ∈ c.parameters, p.shape.Offers)
    (hb : ∀ e why, Syntax.source e = .error why → bad why) :
    DrawM.Ensures (build d settings c)
      (fun call => ∃ args : List (ShapedParameter × Literal), args.map Prod.fst = c.parameters ∧
        (∀ a ∈ args, Synthesis.Conforms number length a.1.shape 0 a.2) ∧
        Syntax.source (expr c.name args) = .ok call.source ∧
        call.arguments = args.map fun a => (a.1.name, a.2)) bad := by
  unfold build
  refine .bind (draw_ensures h c.parameters ho) fun args hargs => ?_
  split
  · exact .pure ⟨args, hargs.1, hargs.2, ‹_›, rfl⟩
  · exact .throw (hb _ _ ‹_›)

/-- With draws that raise only what is caught, so does building a call. -/
theorem build_caught (hd : d.RaisesOnly Raised.Caught) (c : Callable) :
    DrawM.Ensures (build d settings c) (fun _ => True) Raised.Caught :=
  (build_ensures (supplies_of_raisesOnly hd rfl) c (.inl rfl) fun _ _ => source_caught).mono
    fun _ _ => trivial

end Call

/-! ## Runs -/

namespace Session

variable {d : Draws σ} {evaluate : Evaluator ε}

/-- How the annotations of callables account for what building their calls came to and for the
invocations of the evaluator: a callable whose call was not built is not evaluated and shown with an
ellipsis, all others are evaluated once. -/
inductive Accounts (m : Module) :
    List Callable → List (Except Raised Call) → List Invocation → List Annotation → Prop
  | nil : Accounts m [] [] [] []
  | unbuilt {c cs e bs is as} (h : Accounts m cs bs is as) :
      Accounts m (c :: cs) (.error e :: bs) is
        (⟨c.name, c.anchor, c.name ++ "(...)", .failure e.report .thrown⟩ :: as)
  | evaluated {c cs} {call : Call} {bs v is as} (hv : v.Made) (h : Accounts m cs bs is as) :
      Accounts m (c :: cs) (.ok call :: bs) (⟨m, call.source, .ok v⟩ :: is)
        (⟨c.name, c.anchor, call.source, v⟩ :: as)
  | thrown {c cs} {call : Call} {bs e is as} (h : Accounts m cs bs is as) :
      Accounts m (c :: cs) (.ok call :: bs) (⟨m, call.source, .error e⟩ :: is)
        (⟨c.name, c.anchor, call.source, .failure e.report .thrown⟩ :: as)

namespace Accounts

variable {cs : List Callable} {bs : List (Except Raised Call)} {is : List Invocation}
  {as : List Annotation}

theorem sites (h : Accounts m cs bs is as) :
    as.map (fun a => (a.name, a.anchor)) = cs.map fun c => (c.name, c.anchor) := by
  induction h with
  | nil => rfl
  | unbuilt _ ih | evaluated _ _ ih | thrown _ ih => rw [List.map_cons, List.map_cons, ih]

theorem calls (h : Accounts m cs bs is as) :
    is.map Invocation.call = (Call.built bs).map Call.source := by
  unfold Call.built
  induction h with
  | nil => rfl
  | unbuilt _ ih => rw [ih]; rfl
  | evaluated _ _ ih | thrown _ ih => rw [List.map_cons, ih]; rfl

theorem decided (h : Accounts m cs bs is as) : ∀ a ∈ as, a.verdict.Decided := by
  induction h with
  | nil => exact fun a ha => absurd ha List.not_mem_nil
  | evaluated hv _ ih => exact List.forall_mem_cons.mpr ⟨hv.decided, ih⟩
  | unbuilt _ ih | thrown _ ih =>
    exact List.forall_mem_cons.mpr ⟨(Verdict.ofRaised_made _).decided, ih⟩

end Accounts

theorem failed_of_caught {e : Raised} (h : e.Caught) (c : Callable) (call : String) :
    failed c call e = .ok ⟨c.name, c.anchor, call, .ofRaised e⟩ := by
  unfold failed
  rw [h]
  rfl

/-- One callable gets one annotation, and adds what was built for it and what its evaluation
recorded to any account. -/
theorem annotate_step (hd : d.RaisesOnly Raised.Caught) (he : evaluate.Guarded)
    (settings : SynthesisSettings) (m : Module) (c : Callable) (s : σ) (t : ε)
    (log : List Invocation) :
    ∃ a t' own, annotate d settings evaluate m c (s, t) =
        (.ok a, ((Call.build d settings c).run s).2, t') ∧
      annotate d settings evaluate.recorded m c (s, t, log) =
        (.ok a, ((Call.build d settings c).run s).2, t', log ++ own) ∧
      ∀ {cs bs is as}, Accounts m cs bs is as →
        Accounts m (c :: cs) (((Call.build d settings c).run s).1 :: bs) (own ++ is) (a :: as) := by
  unfold annotate
  cases hb : (Call.build d settings c).run s with
  | mk r s' =>
    cases r with
    | error e =>
      have hc : e.Caught := (Call.build_caught hd c).raised hb
      refine ⟨_, t, [], ?_, ?_, fun h => .unbuilt h⟩
      · simp only [failed_of_caught hc]
        rfl
      · simp only [failed_of_caught hc, List.append_nil]
        rfl
    | ok call =>
      simp only [Evaluator.run_recorded]
      cases hv : (evaluate m call.source).run t with
      | mk r t' =>
        cases r with
        | error e =>
          have hc : e.Caught := (he m call.source).raised hv
          simp only [failed_of_caught hc]
          exact ⟨_, t', [⟨m, call.source, .error e⟩], rfl, rfl, fun h => .thrown h⟩
        | ok v =>
          have hm : v.Made := (he m call.source).answer hv
          exact ⟨_, t', [⟨m, call.source, .ok v⟩], rfl, rfl, fun h => .evaluated hm h⟩

theorem annotateAll_account (hd : d.RaisesOnly Raised.Caught) (he : evaluate.Guarded)
    (settings : SynthesisSettings) (m : Module) (cs : List Callable) :
    ∀ (s : σ) (t : ε) (log : List Invocation),
    ∃ as is s' t', annotateAll d settings evaluate m cs (s, t) = (.ok as, s', t') ∧
      annotateAll d settings evaluate.recorded m cs (s, t, log) = (.ok as, s', t', log ++ is) ∧
      Accounts m cs (Call.builds d settings cs s) is as := by
  induction cs with
  | nil => exact fun s t log => ⟨[], [], s, t, rfl, by rw [List.append_nil]; rfl, .nil⟩
  | cons c cs ih =>
    intro s t log
    obtain ⟨a, t₁, own, ha, har, hadd⟩ := annotate_step hd he settings m c s t log
    obtain ⟨as, is, s', t', has, hasr, hall⟩ :=
      ih ((Call.build d settings c).run s).2 t₁ (log ++ own)
    refine ⟨a :: as, own ++ is, s', t', ?_, ?_, hadd hall⟩
    · unfold annotateAll
      simp only [ha, has]
    · unfold annotateAll
      simp only [har, hasr, List.append_assoc]

/-- A run answers one annotation for each callable, whatever fails on the way, and its evaluator is
invoked once for each call that was built, in order. -/
theorem annotateAll_accounts (hd : d.RaisesOnly Raised.Caught) (he : evaluate.Guarded)
    (settings : SynthesisSettings) (m : Module) (cs : List Callable) (s : σ) (t : ε)
    (log : List Invocation) :
    ∃ as is s' t', annotateAll d settings evaluate m cs (s, t) = (.ok as, s', t') ∧
      annotateAll d settings evaluate.recorded m cs (s, t, log) = (.ok as, s', t', log ++ is) ∧
      Accounts m cs (Call.builds d settings cs s) is as ∧
      as.map (fun a => (a.name, a.anchor)) = cs.map (fun c => (c.name, c.anchor)) ∧
      is.map Invocation.call = (Call.built (Call.builds d settings cs s)).map Call.source ∧
      ∀ a ∈ as, a.display = a.call ++ " => " ++ a.verdict.render ∧ a.verdict.Decided := by
  obtain ⟨as, is, s', t', has, hasr, hall⟩ :=
    annotateAll_account hd he settings m cs s t log
  exact ⟨as, is, s', t', has, hasr, hall, hall.sites, hall.calls,
    fun a ha => ⟨rfl, hall.decided a ha⟩⟩

end Session

/-- Answers every other call and raises for those between. -/
def Evaluator.alternating : Evaluator Bool := fun _ call => do
  let raises ← get
  set (!raises)
  if raises then throw (.valueError call) else pure (.success call)

theorem Evaluator.alternating_guarded : Evaluator.alternating.Guarded := by
  intro m call raises
  cases raises
  · exact .inl ⟨call, "", rfl⟩
  · rfl

theorem Draws.lowest_raisesOnly : Draws.lowest.RaisesOnly Raised.Caught where
  words := .pure trivial
  integer _ _ := .pure trivial
  boolean := .pure trivial
  choice _ := .pure trivial
  count _ _ := .pure trivial

namespace Session

/-- Three callables of which the second cannot be built, for its choice offers nothing. -/
def mixed : List Callable :=
  [⟨"f", [], 0, 0, false⟩, ⟨"g", [⟨"x", .choice [], false⟩], 1, 1, false⟩, ⟨"h", [], 2, 2, true⟩]

/-- The call of the last of them raises. -/
theorem annotateAll_accounts_mixed :
    ∃ as is s' t',
      annotateAll Draws.lowest {} .alternating ⟨"", [], []⟩ mixed ((), false) = (.ok as, s', t') ∧
      annotateAll Draws.lowest {} Evaluator.alternating.recorded ⟨"", [], []⟩ mixed
        ((), false, []) = (.ok as, s', t', is) ∧
      is.map Invocation.call = ["f()", "h()"] ∧
      as.map Annotation.display = ["f() => f()",
        "g(...) => raises IndexError: tuple index out of range",
        "h() => raises ValueError: h()"] := by
  obtain ⟨as, is, s', t', h, hr, -, -, hcalls, -⟩ :=
    annotateAll_accounts Draws.lowest_raisesOnly Evaluator.alternating_guarded {} ⟨"", [], []⟩
      mixed () false []
  refine ⟨as, is, s', t', h, hr, hcalls, ?_⟩
  cases h
  rfl

end Session

end Exemplar
