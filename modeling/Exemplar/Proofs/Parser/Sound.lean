import Exemplar.Proofs.Parser.Yields

/-
  What parsed expressions hold. In the parts by which a hint, a name or a lambda is read, names are
  names, numbers are numbers, and parameters that are passed by place only come before the others
  (`Expr.Sound`); every rule of the grammar keeps this up (`expr_sound`).
-/

namespace Exemplar

open Syntax

/-- Parameters that are passed by place only come before all others. -/
def Parameter.InOrder (ps : List Parameter) : Prop :=
  ps.Pairwise fun p q => q.kind = .positionalOnly → p.kind = .positionalOnly

/-- Numbers are numbers, and `T` holds of a text. -/
def Constant.Sound (T : String → Prop) : Constant → Prop
  | .float x => x.isNaN = false
  | .str s _ => T s
  | _ => True

theorem Syntax.IsNumber.sound {T : String → Prop} {c : Constant} (h : IsNumber c) : c.Sound T := by
  cases c with
  | float => exact h
  | str => exact h.elim
  | _ => trivial

/-- Nothing is asked of a text. -/
def AnyText (_ : String) : Prop := True

variable (T : String → Prop)

mutual

/-- Names are names, numbers are numbers and `T` holds of texts, as far as hints and declarations
are read. -/
def Expr.Sound : Expr → Prop
  | .const c => c.Sound T
  | .name n => IsName n
  | .subscript _ i => Expr.Sound i
  | .call _ as _ => Expr.AllSound as
  | .unary _ e => Expr.Sound e
  | .binary l _ r => Expr.Sound l ∧ Expr.Sound r
  | .lambda ps _ => Parameter.AllSound ps ∧ Parameter.InOrder ps
  | .list es => Expr.AllSound es
  | .tuple es => Expr.AllSound es
  | .dict es => Expr.ValuesSound es
  | _ => True

def Expr.AllSound : List Expr → Prop
  | [] => True
  | e :: es => Expr.Sound e ∧ Expr.AllSound es

def Expr.ValuesSound : List (Option Expr × Expr) → Prop
  | [] => True
  | (_, v) :: es => Expr.Sound v ∧ Expr.ValuesSound es

def Parameter.AllSound : List Parameter → Prop
  | [] => True
  | .mk _ n h _ :: ps => (IsName n ∧ Expr.OptionSound h) ∧ Parameter.AllSound ps

def Expr.OptionSound : Option Expr → Prop
  | none => True
  | some e => Expr.Sound e

end

namespace Syntax.Parser

/-- The expression of a tree is sound. -/
def SoundTree (t : Tree) : Prop := t.expr.Sound T

variable {T}

theorem allSound_exprs {ts : List Tree} (h : Each (SoundTree T) ts) :
    Expr.AllSound T (Tree.exprs ts) := by
  induction ts with
  | nil => trivial
  | cons t ts ih =>
    obtain ⟨ht, hts⟩ := List.forall_mem_cons.mp h
    exact ⟨ht, ih hts⟩

theorem valuesSound_entries {es : List (Option Tree × Tree)} (h : Each (SoundTree T ·.2) es) :
    Expr.ValuesSound T (Tree.entries es) := by
  induction es with
  | nil => trivial
  | cons e es ih =>
    obtain ⟨he, hes⟩ := List.forall_mem_cons.mp h
    exact ⟨he, ih hes⟩

variable {self : Self}

/-- The parsers for the expressions inside an expression read sound trees. -/
def SoundSelf (T : String → Prop) (self : Self) : Prop := ∀ s, Yields T (self s) (SoundTree T)

theorem located_yields {p : Parser Form} (hp : Yields T p fun f => (Tree.formExpr f).Sound T) :
    Yields T (located p) (SoundTree T) :=
  .bind line_yields fun _ _ => .bind hp fun _ h => .pure h

/-! ## Items with stars -/

theorem starred_yields (h : SoundSelf T self) (level : Strength) :
    Yields T (starred self level) (SoundTree T) :=
  located_yields (.bind sign_yields fun _ _ => .bind (h level) fun _ _ => .pure trivial)

theorem starOr_yields (h : SoundSelf T self) (level : Strength) :
    Yields T (starOr self level) (SoundTree T) :=
  .bind atSign_yields fun _ _ => .ite (starred_yields h .bitOr) (h level)

theorem soundTree_tuple {ts : List Tree} (l : Nat) (h : Each (SoundTree T) ts) :
    SoundTree T (.mk l (.tuple ts)) := allSound_exprs h

theorem tupleUnlessOne_sound {r : List Tree × Bool} (h : Each (SoundTree T) r.1) :
    SoundTree T (tupleUnlessOne r) := by
  unfold tupleUnlessOne
  split
  · exact h _ (.head _)
  · exact soundTree_tuple _ h

theorem starExpressions_yields (h : SoundSelf T self) :
    Yields T (starExpressions self) (SoundTree T) :=
  .map (commaList_yields (starOr_yields h .test)) fun _ => tupleUnlessOne_sound

theorem loopTargets_yields (h : SoundSelf T self) : Yields T (loopTargets self) (SoundTree T) :=
  .bind (commaList_yields (starOr_yields h .bitOr)) fun _ hr =>
    .bind require_yields fun _ _ => .pure (tupleUnlessOne_sound hr)

theorem yieldExpr_yields (h : SoundSelf T self) : Yields T (yieldExpr self) (SoundTree T) :=
  located_yields (.bind word_yields fun _ _ => .bind skipWord_yields fun _ _ =>
    .ite (.bind (h .test) fun _ _ => .pure trivial)
      (.bind (maybe_yields (h .tuple)) fun _ _ => .pure trivial))

theorem atNamed_yields : Yields T atNamed fun _ => True :=
  .bind peekSecond_yields fun _ _ => .pure trivial

theorem namedExpr_yields (h : SoundSelf T self) : Yields T (namedExpr self) (SoundTree T) :=
  .bind atNamed_yields fun _ _ => .ite
    (located_yields (.bind name_yields fun _ _ => .bind sign_yields fun _ _ =>
      .bind (h .test) fun _ _ => .pure trivial))
    (.bind (h .test) fun _ he => .bind atSign_yields fun _ _ =>
      .bind require_yields fun _ _ => .pure he)

/-! ## Comprehensions -/

theorem atClause_yields : Yields T atClause fun _ => True :=
  .bind atWord_yields fun _ _ => .ite (.pure trivial)
    (.bind peek_yields fun _ _ => .bind peekSecond_yields fun _ _ => .pure trivial)

theorem clause_yields (h : SoundSelf T self) : Yields T (clause self) fun _ => True :=
  .bind atClause_yields fun _ _ => .bind require_yields fun _ _ =>
    .bind skipWord_yields fun _ _ => .bind word_yields fun _ _ =>
    .bind (loopTargets_yields h) fun _ _ => .bind word_yields fun _ _ => .bind (h .or) fun _ _ =>
    .bind (many_yields (.bind word_yields fun _ _ => h .or)) fun _ _ => .pure trivial

theorem clauses_yields (h : SoundSelf T self) : Yields T (clauses self) fun _ => True :=
  .bind (clause_yields h) fun _ _ => .bind (many_yields (clause_yields h)) fun _ _ => .pure trivial

/-! ## Parameters -/

/-- The parameter has a name, and its hint is sound. -/
def SoundParameter (T : String → Prop) (p : TreeParameter) : Prop :=
  IsName p.name ∧ ∀ h ∈ p.hint, SoundTree T h

/-- Parameters that are passed by place only come before all others. -/
def InOrder (ps : List TreeParameter) : Prop :=
  ps.Pairwise fun p q => q.kind = .positionalOnly → p.kind = .positionalOnly

/-- The parameters so far, the last first, are sound and in order. -/
def SoundState (T : String → Prop) (s : ParameterState) : Prop :=
  Each (SoundParameter T) s.done ∧ InOrder s.done.reverse

theorem SoundState.push {s : ParameterState} {p : TreeParameter} (hs : SoundState T s)
    (hp : SoundParameter T p) (hk : p.kind ≠ .positionalOnly) :
    Each (SoundParameter T) (p :: s.done) ∧ InOrder (p :: s.done).reverse := by
  refine ⟨.cons hp hs.1, ?_⟩
  rw [List.reverse_cons]
  refine List.pairwise_append.mpr ⟨hs.2, List.pairwise_singleton _ _, fun a _ b hb => ?_⟩
  rw [List.eq_of_mem_singleton hb]
  exact fun h => absurd h hk

/-- The parameters in front of a slash are passed by place only. -/
theorem SoundState.slash {s : ParameterState} (hs : SoundState T s) :
    Each (SoundParameter T) (s.done.map fun p =>
      .mk .positionalOnly p.name p.hint p.default p.line) ∧
      InOrder (s.done.map fun p =>
        TreeParameter.mk .positionalOnly p.name p.hint p.default p.line).reverse := by
  constructor
  · intro q hq
    obtain ⟨p, hp, rfl⟩ := List.mem_map.mp hq
    exact hs.1 p hp
  · refine List.pairwise_reverse.mpr (List.pairwise_map.mpr ?_)
    exact List.pairwise_of_forall fun _ _ _ => rfl

theorem hint_yields {hints : Bool} {level : Parser Tree} (h : Yields T level (SoundTree T)) :
    Yields T (hint hints level) fun o => ∀ t ∈ o, SoundTree T t :=
  .bind atSign_yields fun _ _ => .ite
    (.bind sign_yields fun _ _ => .bind h fun _ ht => .pure fun _ hu => Option.some.inj hu ▸ ht)
    (.pure nofun)

theorem parameterStep_yields (h : SoundSelf T self) (hints : Bool) {s : ParameterState}
    (hs : SoundState T s) : Yields T (parameterStep self hints s) (SoundState T) := by
  refine .bind line_yields fun l _ => .bind skipSign_yields fun _ _ => .ite ?_
    (.bind skipSign_yields fun _ _ => .ite ?_ (.bind skipSign_yields fun _ _ => .ite ?_ ?_))
  · exact .bind require_yields fun _ _ => .pure hs.slash
  · refine .bind require_yields fun _ _ => .bind atSign_yields fun _ _ => .ite (.pure hs) ?_
    exact .bind name_yields fun n hn => .bind (hint_yields (starOr_yields h .test)) fun o ho =>
      .pure (hs.push (p := .mk .variadic n o none l) ⟨hn, ho⟩ nofun)
  · exact .bind require_yields fun _ _ => .bind name_yields fun n hn =>
      .bind (hint_yields (h .test)) fun o ho =>
        .pure (hs.push (p := .mk .keywordVariadic n o none l) ⟨hn, ho⟩ nofun)
  · refine .bind require_yields fun _ _ => .bind name_yields fun n hn =>
      .bind (hint_yields (h .test)) fun o ho => ?_
    have last : ∀ d, Yields T (α := ParameterState)
        (if s.phase == .afterStar then
          pure { s with done := .mk .keywordOnly n o d l :: s.done, bare := false }
        else do
          require (d.isSome || !s.hasDefault)
          pure { s with done := .mk .ordinary n o d l :: s.done, hasDefault := d.isSome })
        (SoundState T) := fun d =>
      .ite (.pure (hs.push (p := .mk .keywordOnly n o d l) ⟨hn, ho⟩ nofun))
        (.bind require_yields fun _ _ =>
          .pure (hs.push (p := .mk .ordinary n o d l) ⟨hn, ho⟩ nofun))
    exact .bind skipSign_yields fun _ _ => .ite
      (.bind ((h .test).any.map (R := fun _ => True) fun _ _ => trivial) fun d _ => last d)
      (.bind (P := fun _ => True) (.pure trivial) fun d _ => last d)

theorem parameters_yields (h : SoundSelf T self) (hints : Bool) (close : String) :
    Yields T (parameters self hints close) fun ps => Each (SoundParameter T) ps ∧ InOrder ps := by
  have start : SoundState T {} := ⟨nofun, .nil⟩
  refine .bind atSign_yields fun _ _ => .ite (.pure ⟨nofun, .nil⟩)
    (.bind (parameterStep_yields h hints start) fun first hfirst => ?_)
  refine .bind (loop_maybe_yields (fun s hs => ?_) hfirst) fun s hs => ?_
  · exact .bind sign_yields fun _ _ => .bind atSign_yields fun _ _ =>
      .bind require_yields fun _ _ => parameterStep_yields h hints hs
  · exact .bind require_yields fun _ _ => .bind (discard_yields skipSign_yields) fun _ _ =>
      .pure ⟨hs.1.reverse, hs.2⟩

theorem allSound_parameters {ps : List TreeParameter} (h : Each (SoundParameter T) ps) :
    Parameter.AllSound T (Tree.parameters ps) := by
  induction ps with
  | nil => trivial
  | cons p ps ih =>
    obtain ⟨hp, hps⟩ := List.forall_mem_cons.mp h
    obtain ⟨k, n, a, d, l⟩ := p
    refine ⟨⟨hp.1, ?_⟩, ih hps⟩
    cases a with
    | none => trivial
    | some e => exact hp.2 e rfl

theorem parameters_eq (ps : List TreeParameter) : Tree.parameters ps =
    ps.map fun p => .mk p.kind p.name (Tree.option p.hint) (Tree.option p.default) := by
  induction ps with
  | nil => rfl
  | cons p ps ih =>
    obtain ⟨k, n, a, d, l⟩ := p
    rw [Tree.parameters, ih]
    rfl

theorem inOrder_parameters {ps : List TreeParameter} :
    Parameter.InOrder (Tree.parameters ps) ↔ InOrder ps := by
  rw [parameters_eq]
  exact List.pairwise_map

theorem lambdaExpr_yields (h : SoundSelf T self) : Yields T (lambdaExpr self) (SoundTree T) :=
  located_yields (.bind word_yields fun _ _ => .bind (parameters_yields h false ":") fun _ hps =>
    .bind sign_yields fun _ _ => .bind (h .test) fun _ _ =>
      .pure ⟨allSound_parameters hps.1, inOrder_parameters.mpr hps.2⟩)

/-! ## Operators -/

theorem conditional_yields (h : SoundSelf T self) : Yields T (conditional self) (SoundTree T) :=
  .bind atWord_yields fun _ _ => .ite (lambdaExpr_yields h)
    (.bind (h .or) fun _ hbody => .bind skipWord_yields fun _ _ => .ite
      (.bind (h .or) fun _ _ => .bind word_yields fun _ _ => .bind (h .test) fun _ _ =>
        .pure trivial)
      (.pure hbody))

theorem connected_yields {op : BoolOp} {w : String} {operand : Parser Tree}
    (h : Yields T operand (SoundTree T)) : Yields T (connected op w operand) (SoundTree T) := by
  refine .bind (separated_yields word_yields h) fun es hes => ?_
  split
  · exact .pure (hes _ (.head _))
  · exact .pure trivial

theorem negation_yields (h : SoundSelf T self) : Yields T (negation self) (SoundTree T) :=
  .bind atWord_yields fun _ _ => .ite
    (located_yields (.bind word_yields fun _ _ => .bind (h .not) fun _ he => .pure he))
    (h .compare)

theorem compareOp_yields : Yields T compareOp fun _ => True := by
  refine .bind peek_yields fun x _ => ?_
  split
  · exact .bind sign_yields fun _ _ => .pure trivial
  · exact .bind sign_yields fun _ _ => .pure trivial
  · exact .bind sign_yields fun _ _ => .pure trivial
  · exact .bind sign_yields fun _ _ => .pure trivial
  · exact .bind sign_yields fun _ _ => .pure trivial
  · exact .bind sign_yields fun _ _ => .pure trivial
  · exact .bind word_yields fun _ _ => .pure trivial
  · exact .bind word_yields fun _ _ => .bind word_yields fun _ _ => .pure trivial
  · exact .bind word_yields fun _ _ => .bind skipWord_yields fun _ _ =>
      .ite (.pure trivial) (.pure trivial)
  · exact .failure

theorem comparison_yields (h : SoundSelf T self) : Yields T (comparison self) (SoundTree T) := by
  have rest : Yields T (do return (← compareOp, ← self .bitOr)) fun _ => True :=
    .bind compareOp_yields fun _ _ => .bind (h .bitOr) fun _ _ => .pure trivial
  refine .bind (h .bitOr) fun _ hleft => .bind (many_yields rest) fun r _ => ?_
  split
  · exact .pure hleft
  · exact .pure trivial

theorem binary_yields (h : SoundSelf T self) (level next : Strength) :
    Yields T (binary self level next) (SoundTree T) :=
  chain_yields (h next) fun _ hleft => .bind take_any fun _ _ => .bind (h next) fun _ hright =>
    .pure ⟨hleft, hright⟩

theorem factor_yields (h : SoundSelf T self) : Yields T (factor self) (SoundTree T) := by
  refine .bind line_yields fun _ _ => .bind (maybe_yields take_any) fun o _ => ?_
  split
  · exact .bind (h .factor) fun _ he => .pure he
  · exact h .power

theorem power_yields (h : SoundSelf T self) : Yields T (power self) (SoundTree T) :=
  .bind (h .await) fun _ hbase => .bind skipSign_yields fun _ _ => .ite
    (.bind (h .factor) fun _ he => .pure ⟨hbase, he⟩) (.pure hbase)

theorem awaitExpr_yields (h : SoundSelf T self) : Yields T (awaitExpr self) (SoundTree T) :=
  .bind line_yields fun _ _ => .bind skipWord_yields fun _ _ => .ite
    (.bind (h .atom) fun _ _ => .pure trivial) (h .atom)

/-! ## Brackets -/

theorem named_items (h : SoundSelf T self) :
    Yields T (commaList (starOr self .named)) fun r => Each (SoundTree T) r.1 :=
  commaList_yields (starOr_yields h .named)

theorem parenthesis_yields (h : SoundSelf T self) (l : Nat) :
    Yields T (parenthesis self l) (SoundTree T) := by
  refine .bind skipSign_yields fun _ _ => .ite (.pure trivial)
    (.bind atWord_yields fun _ _ => .ite
      (.bind (yieldExpr_yields h) fun _ he => .bind sign_yields fun _ _ => .pure he) ?_)
  refine .bind atSign_yields fun _ _ => .bind (starOr_yields h .named) fun first hfirst =>
    .bind atClause_yields fun _ _ => .ite ?_ (.bind skipSign_yields fun _ _ => .ite ?_ ?_)
  · exact .bind require_yields fun _ _ => .bind (clauses_yields h) fun _ _ =>
      .bind sign_yields fun _ _ => .pure trivial
  · exact .bind require_yields fun _ _ => .pure hfirst
  · exact .bind sign_yields fun _ _ => .bind skipSign_yields fun _ _ => .ite
      (.pure (soundTree_tuple l (.cons hfirst nofun)))
      (.bind (named_items h) fun _ hrest => .bind sign_yields fun _ _ =>
        .pure (soundTree_tuple l (.cons hfirst hrest)))

theorem soundTree_list {ts : List Tree} (l : Nat) (h : Each (SoundTree T) ts) :
    SoundTree T (.mk l (.list ts)) := allSound_exprs h

theorem bracket_yields (h : SoundSelf T self) (l : Nat) :
    Yields T (bracket self l) (SoundTree T) := by
  refine .bind skipSign_yields fun _ _ => .ite (.pure trivial)
    (.bind atSign_yields fun _ _ => .bind (starOr_yields h .named) fun first hfirst =>
      .bind atClause_yields fun _ _ => .ite ?_ (.bind skipSign_yields fun _ _ => .ite ?_ ?_))
  · exact .bind require_yields fun _ _ => .bind (clauses_yields h) fun _ _ =>
      .bind sign_yields fun _ _ => .pure trivial
  · exact .pure (soundTree_list l (.cons hfirst nofun))
  · exact .bind sign_yields fun _ _ => .bind skipSign_yields fun _ _ => .ite
      (.pure (soundTree_list l (.cons hfirst nofun)))
      (.bind (named_items h) fun _ hrest => .bind sign_yields fun _ _ =>
        .pure (soundTree_list l (.cons hfirst hrest)))

theorem entry_yields (h : SoundSelf T self) : Yields T (entry self) (SoundTree T ·.2) :=
  .bind skipSign_yields fun _ _ => .ite (.bind (h .bitOr) fun _ hv => .pure hv)
    (.bind (h .test) fun _ _ => .bind sign_yields fun _ _ => .bind (h .test) fun _ hv => .pure hv)

theorem setRest_yields (h : SoundSelf T self) (l : Nat) (isStarred : Bool) (first : Tree) :
    Yields T (setRest self l isStarred first) (SoundTree T) := by
  refine .bind atClause_yields fun _ _ => .ite ?_ (.bind skipSign_yields fun _ _ => .ite ?_ ?_)
  · exact .bind require_yields fun _ _ => .bind (clauses_yields h) fun _ _ =>
      .bind sign_yields fun _ _ => .pure trivial
  · exact .pure trivial
  · exact .bind sign_yields fun _ _ => .bind skipSign_yields fun _ _ => .ite (.pure trivial)
      (.bind (named_items h) fun _ _ => .bind sign_yields fun _ _ => .pure trivial)

theorem dictRest_yields (h : SoundSelf T self) (l : Nat) {first : Option Tree × Tree}
    (hfirst : SoundTree T first.2) : Yields T (dictRest self l first) (SoundTree T) := by
  have whole : ∀ es, Each (SoundTree T ·.2) es → SoundTree T (.mk l (.dict (first :: es))) :=
    fun es hes => valuesSound_entries (.cons hfirst hes)
  refine .bind atClause_yields fun _ _ => .ite ?_ (.bind skipSign_yields fun _ _ => .ite ?_ ?_)
  · exact .bind (ofOption_yields (Q := fun _ => True) fun _ _ => trivial) fun _ _ =>
      .bind (clauses_yields h) fun _ _ => .bind sign_yields fun _ _ => .pure trivial
  · exact .pure (whole [] nofun)
  · exact .bind sign_yields fun _ _ => .bind skipSign_yields fun _ _ => .ite
      (.pure (whole [] nofun))
      (.bind (commaList_yields (entry_yields h)) fun _ hrest => .bind sign_yields fun _ _ =>
        .pure (whole _ hrest))

theorem brace_yields (h : SoundSelf T self) (l : Nat) : Yields T (brace self l) (SoundTree T) := by
  refine .bind skipSign_yields fun _ _ => .ite (.pure trivial)
    (.bind atSign_yields fun _ _ => .ite ?_ (.bind atSign_yields fun _ _ => .ite ?_
      (.bind atNamed_yields fun _ _ => .ite ?_ ?_)))
  · exact .bind (entry_yields h) fun _ he => dictRest_yields h l he
  · exact .bind (starred_yields h .bitOr) fun _ _ => setRest_yields h l true _
  · exact .bind (h .named) fun _ _ => setRest_yields h l false _
  · exact .bind (h .test) fun _ _ => .bind skipSign_yields fun _ _ => .ite
      (.bind (h .test) fun _ hv => dictRest_yields h l hv)
      (.bind atSign_yields fun _ _ => .bind require_yields fun _ _ => setRest_yields h l false _)

/-! ## Atoms and what follows them -/

theorem quotation_yields : Yields T quotation fun _ => True :=
  .bind line_yields fun _ _ => .bind take_any fun _ _ => .pure trivial

theorem texts_yields : Yields T (texts self) (SoundTree T) := by
  refine ⟨fun ts t rest hts hrun => ⟨?_, ?_⟩⟩
  · obtain ⟨l, f, rfl, hf⟩ := texts_form hrun
    cases hf with
    | bytes | joined => trivial
    | text h => exact hts.text _ h
  · have tokens : Yields T (texts self) fun _ => True :=
      .bind quotation_yields fun _ _ => .bind (many_yields quotation_yields) fun _ _ =>
        ofOption_yields fun _ _ => trivial
    exact (tokens.run ts t rest hts hrun).2

theorem wordAtom_yields (w : String) : Yields T (wordAtom w) (SoundTree T) := by
  refine located_yields ?_
  split
  · exact .bind word_yields fun _ _ => .pure trivial
  · exact .bind word_yields fun _ _ => .pure trivial
  · exact .bind word_yields fun _ _ => .pure trivial
  · exact name_yields.map fun _ hn => hn

theorem atom_yields (h : SoundSelf T self) : Yields T (atom self) (SoundTree T) := by
  refine .bind line_yields fun l _ => .bind peek_yields fun x hx => ?_
  split
  · exact wordAtom_yields _
  · exact .bind (discard_yields (take_any (f := some))) fun _ _ =>
      .pure (IsNumber.sound hx)
  · exact texts_yields
  · exact .bind sign_yields fun _ _ => parenthesis_yields h l
  · exact .bind sign_yields fun _ _ => bracket_yields h l
  · exact .bind sign_yields fun _ _ => brace_yields h l
  · exact .bind sign_yields fun _ _ => .pure trivial
  · exact .failure

theorem sliceItem_yields (h : SoundSelf T self) : Yields T (sliceItem self) (SoundTree T) := by
  refine .bind atSign_yields fun _ _ => .ite (starred_yields h .test)
    (.bind atNamed_yields fun _ _ => .ite (h .named) (.bind line_yields fun l _ =>
      .bind atSign_yields fun _ _ => ?_))
  extract_lets goOn
  have hgo : ∀ lower, (∀ t ∈ lower, SoundTree T t) → Yields T (goOn lower) (SoundTree T) := by
    intro lower hlower
    refine .bind skipSign_yields fun _ _ => .ite
      (.bind (maybe_yields (h .test)) fun _ _ => .bind skipSign_yields fun _ _ => .ite
        (.bind (maybe_yields (h .test)) fun _ _ => .pure trivial)
        (.bind (P := fun _ => True) (.pure trivial) fun _ _ => .pure trivial))
      (ofOption_yields hlower)
  exact .ite (.bind (P := fun o => ∀ t ∈ o, SoundTree T t) (.pure nofun) hgo)
    (.bind ((h .test).map fun _ ht _ hu => Option.some.inj hu ▸ ht) hgo)

theorem index_yields (h : SoundSelf T self) : Yields T (index self) (SoundTree T) := by
  refine .bind (commaList_yields (sliceItem_yields h)) fun r hr => ?_
  split
  · rename_i x
    have hx : SoundTree T x := hr x (.head _)
    refine .pure ?_
    split
    · exact soundTree_tuple _ (.cons hx nofun)
    · exact hx
  · exact .pure (soundTree_tuple _ hr)

theorem argumentStep_yields (h : SoundSelf T self) {s : ArgumentState}
    (hs : Each (SoundTree T) s.args) :
    Yields T (argumentStep self s) fun s => Each (SoundTree T) s.args :=
  .bind line_yields fun _ _ => .bind atSign_yields fun _ _ => .ite
    (.bind require_yields fun _ _ => .bind (starred_yields h .test) fun _ he => .pure (.cons he hs))
    (.bind skipSign_yields fun _ _ => .ite (.bind (h .test) fun _ _ => .pure hs)
      (.bind peekSecond_yields fun _ _ => .ite
        (.bind name_yields fun _ _ => .bind sign_yields fun _ _ => .bind (h .test) fun _ _ =>
          .pure hs)
        (.bind require_yields fun _ _ => .bind (h .named) fun _ he => .pure (.cons he hs))))

theorem restArguments_yields (h : SoundSelf T self) {s : ArgumentState}
    (hs : Each (SoundTree T) s.args) :
    Yields T (restArguments self s) fun r => Each (SoundTree T) r.1 := by
  have rounds : Yields T (loop (fun s => maybe do sign ","; argumentStep self s) s)
      fun s => Each (SoundTree T) s.args :=
    loop_maybe_yields (fun _ hs => .bind sign_yields fun _ _ => argumentStep_yields h hs) hs
  exact .bind rounds fun _ hs => .bind (discard_yields skipSign_yields) fun _ _ =>
    .bind sign_yields fun _ _ => .pure hs.reverse

theorem arguments_yields (h : SoundSelf T self) :
    Yields T (arguments self) fun r => Each (SoundTree T) r.1 :=
  .bind skipSign_yields fun _ _ => .ite (.pure nofun)
    (.bind (argumentStep_yields h nofun) fun _ hs => restArguments_yields h hs)

theorem callArguments_yields (h : SoundSelf T self) (l : Nat) :
    Yields T (callArguments self l) fun r => Each (SoundTree T) r.1 := by
  refine .bind skipSign_yields fun _ _ => .ite (.pure nofun)
    (.bind (argumentStep_yields h nofun) fun first hfirst => .bind atClause_yields fun _ _ =>
      .ite ?_ (restArguments_yields h hfirst))
  split
  · exact .bind require_yields fun _ _ => .bind (clauses_yields h) fun _ _ =>
      .bind sign_yields fun _ _ => .pure (.cons trivial nofun)
  · exact .failure

theorem trailer_yields (h : SoundSelf T self) (e : Tree) :
    Yields T (trailer self e) (SoundTree T) := by
  refine .bind line_yields fun l _ => .bind peek_yields fun x _ => ?_
  split
  · exact .bind sign_yields fun _ _ => .bind name_yields fun _ _ => .pure trivial
  · exact .bind sign_yields fun _ _ => .bind (index_yields h) fun _ hi =>
      .bind sign_yields fun _ _ => .pure hi
  · exact .bind sign_yields fun _ _ => .bind (callArguments_yields h l) fun _ hr =>
      .pure (allSound_exprs hr)
  · exact .failure

theorem primary_yields (h : SoundSelf T self) : Yields T (primary self) (SoundTree T) :=
  chain_yields (atom_yields h) fun e _ => trailer_yields h e

/-! ## All levels -/

theorem step_yields (h : SoundSelf T self) : SoundSelf T (step self) := by
  intro s
  cases s with
  | yield => exact .bind atWord_yields fun _ _ => .ite (yieldExpr_yields h) (h .tuple)
  | tuple => exact starExpressions_yields h
  | named => exact namedExpr_yields h
  | test => exact conditional_yields h
  | or => exact connected_yields (h .and)
  | and => exact connected_yields (h .not)
  | not => exact negation_yields h
  | compare => exact comparison_yields h
  | bitOr | bitXor | bitAnd | shift | arith | term => exact binary_yields h _ _
  | factor => exact factor_yields h
  | power => exact power_yields h
  | await => exact awaitExpr_yields h
  | atom => exact primary_yields h

/-- Parsed expressions are sound. -/
theorem expr_yields (n : Nat) : SoundSelf T (expr n) := by
  induction n with
  | zero => exact fun _ => .failure
  | succ n ih => exact step_yields ih

theorem expressions_yields (h : SoundSelf T self) : Yields T (expressions self) (SoundTree T) :=
  .map (commaList_yields (h .test)) fun _ => tupleUnlessOne_sound

end Syntax.Parser

end Exemplar
