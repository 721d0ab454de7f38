import Exemplar.Proofs.Parser.Sound
import Exemplar.Syntax.Parser.Stmt

/-
  What parsed statements hold. The statements that declare something have sound names, parameters,
  hints and values (`Stmt.Sound`). Of all other statements, and of patterns, only the tokens matter
  that they leave.
-/

namespace Exemplar

open Syntax Syntax.Parser

variable (T : String → Prop)

mutual

/-- The parts by which the statement declares something are sound. -/
def Stmt.Sound : Stmt → Prop
  | .mk a _ _ => Action.Sound a

def Action.Sound : Action → Prop
  | .function _ n ps _ _ _ => IsName n ∧ Each (SoundParameter T) ps ∧ InOrder ps
  | .classDef _ _ _ _ body => Stmt.AllSound body
  | .assign targets value => Each (SoundTree T) targets ∧ SoundTree T value
  | .annAssign target hint value _ =>
    SoundTree T target ∧ SoundTree T hint ∧ ∀ v ∈ value, SoundTree T v
  | _ => True

def Stmt.AllSound : List Stmt → Prop
  | [] => True
  | s :: ss => Stmt.Sound s ∧ Stmt.AllSound ss

end

variable {T}

theorem Stmt.allSound_iff {ss : List Stmt} : Stmt.AllSound T ss ↔ ∀ s ∈ ss, s.Sound T := by
  induction ss with
  | nil => exact iff_of_true trivial nofun
  | cons s ss ih =>
    rw [List.forall_mem_cons, ← ih]
    exact Iff.rfl

namespace Syntax.Parser

variable {self : Self}

/-! ## Patterns -/

section Patterns

variable {p : Parser Pattern}

theorem captureName_yields : Yields T captureName fun _ => True :=
  .bind name_yields fun _ _ => .bind require_yields fun _ _ => .pure trivial

theorem signedNumber_yields : Yields T signedNumber fun _ => True :=
  .bind line_yields fun _ _ => .bind skipSign_yields fun _ _ => .bind line_yields fun _ _ =>
    .bind take_any fun _ _ => .pure trivial

theorem numberValue_yields : Yields T numberValue fun _ => True := by
  refine .bind signedNumber_yields fun _ _ => .bind (maybe_yields take_any) fun o _ => ?_
  cases o with
  | none => exact .pure trivial
  | some op =>
    exact .bind require_yields fun _ _ => .bind atSign_yields fun _ _ =>
      .bind signedNumber_yields fun _ _ => .bind require_yields fun _ _ => .pure trivial

theorem dottedValue_yields : Yields T dottedValue fun _ => True :=
  chain_yields (.bind line_yields fun _ _ => .bind (name_yields.map (R := fun _ => True)
      fun _ _ => trivial) fun _ _ => .pure trivial)
    fun _ _ => .bind sign_yields fun _ _ => .bind name_yields fun _ _ => .pure trivial

theorem literalValue_yields : Yields T (literalValue self) fun _ => True := by
  refine .bind peek_yields fun x _ => ?_
  split
  · exact texts_yields.any
  · exact (wordAtom_yields _).any
  · exact (wordAtom_yields _).any
  · exact (wordAtom_yields _).any
  · exact numberValue_yields

theorem starOrPattern_yields (hp : Yields T p fun _ => True) :
    Yields T (starOrPattern p) fun _ => True :=
  .bind line_yields fun _ _ => .bind skipSign_yields fun _ _ =>
    .ite (.bind name_yields fun _ _ => .pure trivial) hp

theorem patternsUntil_yields (hp : Yields T p fun _ => True) (close : String) :
    Yields T (patternsUntil p close) fun _ => True :=
  .bind skipSign_yields fun _ _ => .ite (.pure trivial)
    (.bind (commaList_yields (starOrPattern_yields hp)) fun _ _ => .bind sign_yields fun _ _ =>
      .pure trivial)

theorem mappingEntry_yields (hp : Yields T p fun _ => True) :
    Yields T (mappingEntry self p) fun _ => True := by
  refine .bind skipSign_yields fun _ _ => .ite
    (.bind captureName_yields fun _ _ => .pure trivial)
    (.bind peek_yields fun x _ => .bind peekSecond_yields fun y _ => ?_)
  have rest : ∀ key : Tree,
      Yields T (do sign ":"; return (.inl (key, ← p) : Tree × Pattern ⊕ String)) fun _ => True :=
    fun _ => .bind sign_yields fun _ _ => .bind hp fun _ _ => .pure trivial
  split
  · exact .bind dottedValue_yields fun key _ => rest key
  · exact .bind literalValue_yields fun key _ => rest key

theorem mappingPattern_yields (hp : Yields T p fun _ => True) (l : Nat) :
    Yields T (mappingPattern self p l) fun _ => True := by
  refine .bind skipSign_yields fun _ _ => .ite (.pure trivial)
    (.bind (commaList_yields (mappingEntry_yields hp)) fun r _ => .bind sign_yields fun _ _ => ?_)
  split
  · exact .bind require_yields fun _ _ => .pure trivial
  · exact .bind require_yields fun _ _ => .pure trivial

theorem classArgument_yields (hp : Yields T p fun _ => True) :
    Yields T (classArgument p) fun _ => True :=
  .bind peekSecond_yields fun _ _ => .ite
    (.bind name_yields fun _ _ => .bind sign_yields fun _ _ => .bind hp fun _ _ => .pure trivial)
    (.bind hp fun _ _ => .pure trivial)

theorem classPattern_yields (hp : Yields T p fun _ => True) (cls : Tree) (l : Nat) :
    Yields T (classPattern p cls l) fun _ => True :=
  .bind skipSign_yields fun _ _ => .ite (.pure trivial)
    (.bind (commaList_yields (classArgument_yields hp)) fun _ _ => .bind sign_yields fun _ _ =>
      .bind require_yields fun _ _ => .pure trivial)

theorem closedPattern_yields (hp : Yields T p fun _ => True) :
    Yields T (closedPattern self p) fun _ => True := by
  refine .bind line_yields fun l _ => .bind peek_yields fun x _ => ?_
  split
  · refine .bind sign_yields fun _ _ => .bind (patternsUntil_yields hp ")") fun r _ => ?_
    split
    · exact .bind require_yields fun _ _ => .pure trivial
    · exact .pure trivial
  · exact .bind sign_yields fun _ _ => .bind (patternsUntil_yields hp "]") fun _ _ => .pure trivial
  · exact .bind sign_yields fun _ _ => mappingPattern_yields hp l
  · refine .ite (.bind literalValue_yields fun _ _ => .pure trivial)
      (.bind dottedValue_yields fun e _ => .bind skipSign_yields fun _ _ =>
        .ite (classPattern_yields hp e l) ?_)
    split
    · exact .bind atSign_yields fun _ _ => .bind require_yields fun _ _ => .pure trivial
    · exact .pure trivial
  · exact .bind literalValue_yields fun _ _ => .pure trivial

theorem patternStep_yields (hp : Yields T p fun _ => True) :
    Yields T (patternStep self p) fun _ => True := by
  have rest : ∀ (l : Nat) (q : Pattern), Yields T (do
      if ← skipWord "as" then return .capture (some q) (some (← captureName)) l else return q)
      fun _ => True :=
    fun _ _ => .bind skipWord_yields fun _ _ => .ite
      (.bind captureName_yields fun _ _ => .pure trivial) (.pure trivial)
  refine .bind line_yields fun l _ =>
    .bind (separated_yields sign_yields (closedPattern_yields hp)) fun qs _ => ?_
  split
  · exact .bind (P := fun _ => True) (.pure trivial) fun q _ => rest l q
  · exact .bind (P := fun _ => True) (.pure trivial) fun q _ => rest l q

theorem pattern_yields (n : Nat) : Yields T (pattern self n) fun _ => True := by
  induction n with
  | zero => exact .failure
  | succ n ih => exact patternStep_yields ih

theorem casePattern_yields (hp : Yields T p fun _ => True) :
    Yields T (casePattern p) fun _ => True := by
  refine .bind (commaList_yields (starOrPattern_yields hp)) fun r _ => ?_
  split
  · exact .bind require_yields fun _ _ => .pure trivial
  · exact .pure trivial

end Patterns

/-! ## Statements within a line -/

theorem placed_yields {p : Parser Action} (hp : Yields T p (Action.Sound T)) :
    Yields T (placed p) (Stmt.Sound T) :=
  .bind (withTokens_yields hp) fun _ ha => .pure ha

theorem assignment_yields (h : SoundSelf T self) {first : Tree} (hfirst : SoundTree T first) :
    Yields T (assignment self first) (Action.Sound T) := by
  refine .bind require_yields fun _ _ => .bind sign_yields fun _ _ =>
    .bind (h .yield) fun value hvalue => ?_
  have start : Each (SoundTree T) [first] ∧ SoundTree T value := ⟨.cons hfirst nofun, hvalue⟩
  refine .bind (loop_maybe_yields (Q := fun s => Each (SoundTree T) s.1 ∧ SoundTree T s.2)
    (fun s hs => ?_) start) fun s hs => ?_
  · exact .bind sign_yields fun _ _ => .bind require_yields fun _ _ =>
      .bind (h .yield) fun _ hv => .pure ⟨.cons hs.2 hs.1, hv⟩
  · exact .bind atSign_yields fun _ _ => .bind require_yields fun _ _ =>
      .pure ⟨hs.1.reverse, hs.2⟩

/-- What follows a first expression. -/
theorem firstExpression_yields (h : SoundSelf T self) (grouped : Bool) {e : Tree}
    (he : SoundTree T e) : Yields T (do
      if ← skipSign ":" then
        require (isSingleTarget e)
        let hint ← self .test
        let value ← if ← skipSign "=" then some <$> self .yield else pure none
        let isName := match e.form with
          | .name _ => true
          | _ => false
        return .annAssign e hint value (isName && !grouped)
      match ← maybe (operator augmentedOps) with
      | some op =>
        require (isSingleTarget e)
        return .augAssign e op (← self .yield)
      | none => if ← atSign "=" then assignment self e else return .expr e) (Action.Sound T) := by
  refine .bind skipSign_yields fun _ _ => .ite ?_ (.bind (maybe_yields take_any) fun o _ => ?_)
  · refine .bind require_yields fun _ _ => .bind (h .test) fun hint hhint =>
      .bind skipSign_yields fun _ _ => .ite
      (.bind ((h .yield).map (R := fun o => ∀ v ∈ o, SoundTree T v)
        fun _ hv _ hu => Option.some.inj hu ▸ hv) fun o ho => .pure ⟨he, hhint, ho⟩)
      (.bind (P := fun o => ∀ v ∈ o, SoundTree T v) (.pure nofun) fun o ho =>
        .pure ⟨he, hhint, ho⟩)
  · cases o with
    | none =>
      exact .bind atSign_yields fun _ _ => .ite (assignment_yields h he) (.pure trivial)
    | some op =>
      exact .bind require_yields fun _ _ => .bind (h .yield) fun _ _ => .pure trivial

theorem assignOrExpr_yields (h : SoundSelf T self) :
    Yields T (assignOrExpr self) (Action.Sound T) :=
  .bind atWord_yields fun _ _ => .ite
    (.bind (yieldExpr_yields h) fun _ _ => .pure trivial)
    (.bind atSign_yields fun grouped _ => .bind (h .tuple) fun _ he =>
      firstExpression_yields h grouped he)

theorem dottedName_yields : Yields T dottedName fun _ => True :=
  (separated_yields sign_yields name_yields).any

theorem aliasAfter_yields : Yields T aliasAfter fun _ => True :=
  .bind skipWord_yields fun _ _ => .ite (.bind name_yields fun _ _ => .pure trivial) (.pure trivial)

theorem importModules_yields : Yields T importModules (Action.Sound T) := by
  have item : Yields T (do
      let l ← line
      return (⟨← dottedName, ← aliasAfter, l⟩ : Import)) fun _ => True :=
    .bind line_yields fun _ _ => .bind dottedName_yields fun _ _ =>
      .bind aliasAfter_yields fun _ _ => .pure trivial
  exact .bind word_yields fun _ _ => .bind (separated_yields sign_yields item) fun _ _ =>
    .pure trivial

theorem leadingDots_yields : Yields T leadingDots fun _ => True :=
  loop_yields (fun _ _ => .bind skipSign_yields fun _ _ => .ite (.pure fun _ _ => trivial)
    (.bind skipSign_yields fun _ _ => .ite (.pure fun _ _ => trivial) (.pure nofun))) trivial

theorem importedName_yields : Yields T importedName fun _ => True :=
  .bind line_yields fun _ _ => .bind name_yields fun _ _ => .bind aliasAfter_yields fun _ _ =>
    .pure trivial

theorem importFrom_yields : Yields T importFrom (Action.Sound T) := by
  have names : ∀ (level : Nat) (path : List String), Yields T (do
      require (level != 0 || !path.isEmpty)
      word "import"
      let l ← line
      if ← skipSign everyName then return .importFrom level path [⟨[everyName], none, l⟩]
      else if ← skipSign "(" then
        let names ← commaList importedName
        sign ")"
        return .importFrom level path names.1
      else
        return .importFrom level path (← separated (sign ",") importedName)) (Action.Sound T) :=
    fun _ _ => .bind require_yields fun _ _ => .bind word_yields fun _ _ =>
      .bind line_yields fun _ _ => .bind skipSign_yields fun _ _ => .ite (.pure trivial)
      (.bind skipSign_yields fun _ _ => .ite
        (.bind (commaList_yields importedName_yields) fun _ _ => .bind sign_yields fun _ _ =>
          .pure trivial)
        (.bind (separated_yields sign_yields importedName_yields) fun _ _ => .pure trivial))
  exact .bind word_yields fun _ _ => .bind leadingDots_yields fun level _ =>
    .bind atWord_yields fun _ _ => .ite
      (.bind (P := fun _ => True) (.pure trivial) fun path _ => names level path)
      (.bind dottedName_yields fun path _ => names level path)

theorem deleteStmt_yields (h : SoundSelf T self) : Yields T (deleteStmt self) (Action.Sound T) :=
  .bind word_yields fun _ _ => .bind (commaList_yields (h .bitOr)) fun _ _ =>
    .bind require_yields fun _ _ => .pure trivial

theorem raiseStmt_yields (h : SoundSelf T self) : Yields T (raiseStmt self) (Action.Sound T) := by
  refine .bind word_yields fun _ _ => .bind (maybe_yields (h .test)) fun o _ => ?_
  cases o with
  | none => exact .pure trivial
  | some e =>
    exact .bind skipWord_yields fun _ _ => .ite (.bind (h .test) fun _ _ => .pure trivial)
      (.pure trivial)

theorem assertStmt_yields (h : SoundSelf T self) : Yields T (assertStmt self) (Action.Sound T) :=
  .bind word_yields fun _ _ => .bind (h .test) fun _ _ => .bind skipSign_yields fun _ _ =>
    .ite (.bind (h .test) fun _ _ => .pure trivial) (.pure trivial)

theorem simpleAction_yields (h : SoundSelf T self) :
    Yields T (simpleAction self) (Action.Sound T) := by
  refine .bind peek_yields fun x _ => ?_
  split
  · exact .bind word_yields fun _ _ => .pure trivial
  · exact .bind word_yields fun _ _ => .pure trivial
  · exact .bind word_yields fun _ _ => .pure trivial
  · exact .bind word_yields fun _ _ => .bind (maybe_yields (h .tuple)) fun _ _ => .pure trivial
  · exact importModules_yields
  · exact importFrom_yields
  · exact raiseStmt_yields h
  · exact deleteStmt_yields h
  · exact assertStmt_yields h
  · exact .bind word_yields fun _ _ => .bind (separated_yields sign_yields name_yields) fun _ _ =>
      .pure trivial
  · exact .bind word_yields fun _ _ => .bind (separated_yields sign_yields name_yields) fun _ _ =>
      .pure trivial
  · exact assignOrExpr_yields h

theorem simpleLine_yields (h : SoundSelf T self) :
    Yields T (simpleLine self) (Each (Stmt.Sound T)) :=
  .bind (separated_yields sign_yields (placed_yields (simpleAction_yields h))) fun _ hs =>
    .bind (discard_yields skipSign_yields) fun _ _ => .bind mark_yields fun _ _ => .pure hs

/-! ## Statements with blocks -/

section Blocks

variable {block : Parser (List Stmt)}

theorem Each.flatten {α : Type} {Q : α → Prop} {ass : List (List α)} (h : Each (Each Q) ass) :
    Each Q ass.flatten := by
  intro a ha
  obtain ⟨as, has, ha⟩ := List.mem_flatten.mp ha
  exact h as has a ha

theorem block_yields (h : SoundSelf T self) {p : Parser (List Stmt)}
    (hp : Yields T p (Each (Stmt.Sound T))) :
    Yields T (Parser.block self p) (Each (Stmt.Sound T)) := by
  refine .bind peek_yields fun _ _ => .ite ?_ (simpleLine_yields h)
  refine .bind mark_yields fun _ _ => .bind mark_yields fun _ _ => .bind hp fun first hfirst =>
    .bind (many_yields hp) fun rest hrest => .bind mark_yields fun _ _ => .pure fun s hs => ?_
  rcases List.mem_append.mp hs with hs | hs
  · exact hfirst s hs
  · exact Each.flatten hrest s hs

theorem suite_yields (hb : Yields T block (Each (Stmt.Sound T))) :
    Yields T (suite block) (Each (Stmt.Sound T)) :=
  .bind sign_yields fun _ _ => hb

theorem elseSuite_yields (hb : Yields T block (Each (Stmt.Sound T))) :
    Yields T (elseSuite block) (Each (Stmt.Sound T)) :=
  .bind skipWord_yields fun _ _ => .ite (suite_yields hb) (.pure nofun)

/-- A function from its name on. -/
theorem functionName_yields (h : SoundSelf T self) (hb : Yields T block (Each (Stmt.Sound T)))
    (isAsync : Bool) (ds : List Tree) : Yields T (do
      let n ← name
      sign "("
      let ps ← parameters self true ")"
      sign ")"
      let returns ← if ← skipSign "->" then some <$> self .test else pure none
      return .function isAsync n ps returns ds (← suite block)) (Action.Sound T) := by
  refine .bind name_yields fun n hn => .bind sign_yields fun _ _ =>
    .bind (parameters_yields h true ")") fun ps hps => .bind sign_yields fun _ _ =>
    .bind skipSign_yields fun _ _ => ?_
  have rest : ∀ returns : Option Tree,
      Yields T (do return .function isAsync n ps returns ds (← suite block)) (Action.Sound T) :=
    fun _ => .bind (suite_yields hb) fun _ _ => .pure ⟨hn, hps.1, hps.2⟩
  exact .ite (.bind ((h .test).any.map (R := fun _ => True) fun _ _ => trivial) fun r _ => rest r)
    (.bind (P := fun _ => True) (.pure trivial) fun r _ => rest r)

theorem functionDef_yields (h : SoundSelf T self) (hb : Yields T block (Each (Stmt.Sound T)))
    (ds : List Tree) : Yields T (functionDef self block ds) (Action.Sound T) :=
  .bind skipWord_yields fun isAsync _ => .bind word_yields fun _ _ =>
    functionName_yields h hb isAsync ds

theorem classDef_yields (h : SoundSelf T self) (hb : Yields T block (Each (Stmt.Sound T)))
    (ds : List Tree) : Yields T (classDef self block ds) (Action.Sound T) := by
  refine .bind word_yields fun _ _ => .bind name_yields fun n _ =>
    .bind skipSign_yields fun _ _ => ?_
  have rest : ∀ r : List Tree × List TreeKeyword,
      Yields T (do return .classDef n r.1 r.2 ds (← suite block)) (Action.Sound T) :=
    fun _ => .bind (suite_yields hb) fun _ hs => .pure (Stmt.allSound_iff.mpr hs)
  exact .ite (.bind (arguments_yields h) fun r _ => rest r)
    (.bind (P := fun _ => True) (.pure trivial) fun r _ => rest r)

theorem decorator_yields (h : SoundSelf T self) : Yields T (decorator self) fun _ => True :=
  .bind sign_yields fun _ _ => .bind (h .named) fun _ _ => .bind mark_yields fun _ _ =>
    .pure trivial

theorem definition_yields (h : SoundSelf T self) (hb : Yields T block (Each (Stmt.Sound T))) :
    Yields T (definition self block) (Stmt.Sound T) :=
  .bind (many_yields (decorator_yields h)) fun ds _ => placed_yields
    (.bind atWord_yields fun _ _ => .ite (classDef_yields h hb ds) (functionDef_yields h hb ds))

theorem testSuite_yields (h : SoundSelf T self) (hb : Yields T block (Each (Stmt.Sound T)))
    (w : String) :
    Yields T (testSuite self block w) fun _ => True := by
  have test : Yields T (do word w; let test ← self .named; return (test, ← suite block))
      fun _ => True :=
    .bind word_yields fun _ _ => .bind (h .named) fun _ _ => .bind (suite_yields hb) fun _ _ =>
      .pure trivial
  exact .bind (withTokens_yields test) fun _ _ => .pure trivial

theorem ifStmt_yields (h : SoundSelf T self) (hb : Yields T block (Each (Stmt.Sound T))) :
    Yields T (ifStmt self block) (Action.Sound T) := by
  have more : Yields T (do
      let more ← many (testSuite self block "elif")
      return (more, ← elseSuite block)) fun _ => True :=
    .bind (many_yields (testSuite_yields h hb "elif")) fun _ _ =>
      .bind (elseSuite_yields hb) fun _ _ => .pure trivial
  exact .bind (testSuite_yields h hb "if") fun _ _ => .bind (withTokens_yields more) fun _ _ =>
    .pure trivial

theorem whileStmt_yields (h : SoundSelf T self) (hb : Yields T block (Each (Stmt.Sound T))) :
    Yields T (whileStmt self block) (Action.Sound T) :=
  .bind word_yields fun _ _ => .bind (h .named) fun _ _ => .bind (suite_yields hb) fun _ _ =>
    .bind (elseSuite_yields hb) fun _ _ => .pure trivial

theorem forStmt_yields (h : SoundSelf T self) (hb : Yields T block (Each (Stmt.Sound T))) :
    Yields T (forStmt self block) (Action.Sound T) :=
  .bind skipWord_yields fun _ _ => .bind word_yields fun _ _ =>
    .bind (loopTargets_yields h) fun _ _ => .bind word_yields fun _ _ => .bind (h .tuple) fun _ _ =>
    .bind (suite_yields hb) fun _ _ => .bind (elseSuite_yields hb) fun _ _ => .pure trivial

theorem withItem_yields (h : SoundSelf T self) : Yields T (withItem self) fun _ => True :=
  .bind (h .test) fun _ _ => .bind skipWord_yields fun _ _ => .ite
    (.bind (starOr_yields h .bitOr) fun _ _ => .bind require_yields fun _ _ => .pure trivial)
    (.pure trivial)

theorem withStmt_yields (h : SoundSelf T self) (hb : Yields T block (Each (Stmt.Sound T))) :
    Yields T (withStmt self block) (Action.Sound T) := by
  have grouped : Yields T (do
      sign "("
      let items ← commaList (withItem self)
      sign ")"
      require (← atSign ":")
      return items.1) fun _ => True :=
    .bind sign_yields fun _ _ => .bind (commaList_yields (withItem_yields h)) fun _ _ =>
      .bind sign_yields fun _ _ => .bind atSign_yields fun _ _ => .bind require_yields fun _ _ =>
      .pure trivial
  exact .bind skipWord_yields fun _ _ => .bind word_yields fun _ _ =>
    .bind (.orElse grouped (separated_yields sign_yields (withItem_yields h)).any) fun _ _ =>
    .bind (suite_yields hb) fun _ _ => .pure trivial

theorem handler_yields (h : SoundSelf T self) (hb : Yields T block (Each (Stmt.Sound T))) :
    Yields T (handler self block) fun _ => True := by
  have bare : ∀ (l : Nat) (grouped : Bool),
      Yields T (do return ((.mk none none (← suite block) l : Handler), grouped)) fun _ => True :=
    fun _ _ => .bind (suite_yields hb) fun _ _ => .pure trivial
  have typed : ∀ (l : Nat) (grouped : Bool), Yields T (do
      let type ← self .test
      let alias? ← aliasAfter
      return ((.mk (some type) alias? (← suite block) l : Handler), grouped)) fun _ => True :=
    fun _ _ => .bind (h .test) fun _ _ => .bind aliasAfter_yields fun _ _ =>
      .bind (suite_yields hb) fun _ _ => .pure trivial
  exact .bind line_yields fun l _ => .bind word_yields fun _ _ =>
    .bind skipSign_yields fun grouped _ => .bind atSign_yields fun _ _ =>
    .ite (bare l grouped) (typed l grouped)

theorem finallySuite_yields (hb : Yields T block (Each (Stmt.Sound T))) :
    Yields T (finallySuite block) (Each (Stmt.Sound T)) :=
  .bind skipWord_yields fun _ _ => .ite (suite_yields hb) (.pure nofun)

theorem tryStmt_yields (h : SoundSelf T self) (hb : Yields T block (Each (Stmt.Sound T))) :
    Yields T (tryStmt self block) (Action.Sound T) := by
  have rest : ∀ (body : List Stmt) (handlers : List (Handler × Bool)) (orelse : List Stmt)
      (grouped : Bool), Yields T (do
        let final ← finallySuite block
        require (!handlers.isEmpty || !final.isEmpty)
        return .tryBlock body (handlers.map (·.1)) orelse final grouped) (Action.Sound T) :=
    fun _ _ _ _ => .bind (finallySuite_yields hb) fun _ _ => .bind require_yields fun _ _ =>
      .pure trivial
  exact .bind word_yields fun _ _ => .bind (suite_yields hb) fun body _ =>
    .bind (many_yields (handler_yields h hb)) fun handlers _ => .bind require_yields fun _ _ =>
    .ite (.bind (P := fun _ => True) (.pure trivial) fun orelse _ => rest body handlers orelse _)
      (.bind (elseSuite_yields hb) fun orelse _ => rest body handlers orelse _)

theorem matchCase_yields (h : SoundSelf T self) {p : Parser Pattern} (hp : Yields T p fun _ => True)
    (hb : Yields T block (Each (Stmt.Sound T))) :
    Yields T (matchCase self p block) fun _ => True := by
  have rest : ∀ (q : Pattern) (guard? : Option Tree),
      Yields T (do return (.mk q guard? (← suite block) : Case)) fun _ => True :=
    fun _ _ => .bind (suite_yields hb) fun _ _ => .pure trivial
  exact .bind word_yields fun _ _ => .bind (casePattern_yields hp) fun q _ =>
    .bind skipWord_yields fun _ _ => .ite
    (.bind ((h .named).any.map (R := fun _ => True) fun _ _ => trivial) fun g _ => rest q g)
    (.bind (P := fun _ => True) (.pure trivial) fun g _ => rest q g)

theorem matchStmt_yields (h : SoundSelf T self) {p : Parser Pattern} (hp : Yields T p fun _ => True)
    (hb : Yields T block (Each (Stmt.Sound T))) :
    Yields T (matchStmt self p block) (Action.Sound T) := by
  have rest : ∀ subject : Tree, Yields T (do
      sign ":"
      mark .newline
      mark .indent
      let first ← matchCase self p block
      let rest ← many (matchCase self p block)
      mark .dedent
      return .matchOn subject (first :: rest)) (Action.Sound T) :=
    fun _ => .bind sign_yields fun _ _ => .bind mark_yields fun _ _ => .bind mark_yields fun _ _ =>
      .bind (matchCase_yields h hp hb) fun _ _ =>
      .bind (many_yields (matchCase_yields h hp hb)) fun _ _ => .bind mark_yields fun _ _ =>
      .pure trivial
  refine .bind word_yields fun _ _ =>
    .bind (commaList_yields (starOr_yields h .named)) fun r _ => ?_
  split
  · exact .bind require_yields fun _ _ =>
      .bind (P := fun _ => True) (.pure trivial) fun subject _ => rest subject
  · exact .bind (P := fun _ => True) (.pure trivial) fun subject _ => rest subject

theorem statementStep_yields (h : SoundSelf T self) {p : Parser Pattern}
    (hp : Yields T p fun _ => True) (hb : Yields T block (Each (Stmt.Sound T))) :
    Yields T (statementStep self p block) (Each (Stmt.Sound T)) := by
  have one : ∀ {p : Parser Stmt}, Yields T p (Stmt.Sound T) →
      Yields T (do return [← p]) (Each (Stmt.Sound T)) :=
    fun hp => .bind hp fun _ hs => .pure (.cons hs nofun)
  refine .bind peek_yields fun x _ => ?_
  split
  · exact one (placed_yields (ifStmt_yields h hb))
  · exact one (placed_yields (whileStmt_yields h hb))
  · exact one (placed_yields (forStmt_yields h hb))
  · exact one (placed_yields (tryStmt_yields h hb))
  · exact one (placed_yields (withStmt_yields h hb))
  · exact one (definition_yields h hb)
  · exact one (definition_yields h hb)
  · exact one (definition_yields h hb)
  · refine .bind peekSecond_yields fun y _ => ?_
    split
    · exact one (placed_yields (forStmt_yields h hb))
    · exact one (placed_yields (withStmt_yields h hb))
    · exact one (definition_yields h hb)
  · exact .orElse (one (placed_yields (matchStmt_yields h hp hb))) (simpleLine_yields h)
  · exact simpleLine_yields h

end Blocks

/-- Parsed statements are sound. -/
theorem statement_yields (h : SoundSelf T self) {p : Parser Pattern} (hp : Yields T p fun _ => True)
    (n : Nat) : Yields T (statement self p n) (Each (Stmt.Sound T)) := by
  induction n with
  | zero => exact .failure
  | succ n ih => exact statementStep_yields h hp (block_yields h ih)

theorem file_yields (h : SoundSelf T self) {p : Parser Pattern} (hp : Yields T p fun _ => True)
    (n : Nat) : Yields T (file self p n) (Each (Stmt.Sound T)) :=
  .bind (many_yields (statement_yields h hp n)) fun _ hs => .bind mark_yields fun _ _ =>
    .pure (Each.flatten hs)

end Syntax.Parser

/-! ## Whole texts -/

namespace Syntax

open Exemplar.Syntax.Parser

variable {cs : List Char}

/-- The tokens of a source are sound if `T` holds of all shorter texts. -/
theorem lex_sound (hT : ∀ s : String, s.length < cs.length → T s) {tokens : List Token}
    (h : (lex cs).tokens? = some tokens) : SoundTokens T tokens := by
  obtain ⟨hlexeme, hroom⟩ := lexFrom_sound h
  exact ⟨hlexeme, fun s hs => hT s (Nat.lt_of_lt_of_le hs hroom)⟩

/-- The statements of a source file are sound. -/
theorem parseFile_sound (hT : ∀ s : String, s.length < cs.length → T s) {body : List Stmt}
    (h : parseFile? cs = some body) : ∀ s ∈ body, s.Sound T := by
  obtain ⟨tokens, htokens, h⟩ := Option.bind_eq_some_iff.mp h
  obtain ⟨⟨ss, rest⟩, hrun, heq⟩ := Option.bind_eq_some_iff.mp h
  cases heq
  have hself : SoundSelf T (expr (stepsFor cs.length)) := expr_yields _
  have hp : Yields T (pattern (expr (stepsFor cs.length)) (stepsFor cs.length)) fun _ => True :=
    pattern_yields _
  exact ((file_yields hself hp _).sound tokens body rest (lex_sound hT htokens) hrun).1

/-- The expression that a text holds is sound. -/
theorem parseExpr_sound (hT : ∀ s : String, s.length < cs.length → T s) {e : Expr}
    (h : parseExpr? cs = some e) : e.Sound T := by
  obtain ⟨t, ht, rfl⟩ := Option.map_eq_some_iff.mp h
  obtain ⟨tokens, htokens, h⟩ := Option.bind_eq_some_iff.mp ht
  obtain ⟨⟨u, rest⟩, hrun, heq⟩ := Option.bind_eq_some_iff.mp h
  cases heq
  have whole : Yields T (do
      let e ← expressions (expr (stepsFor cs.length))
      discard (many (mark .newline))
      mark .stop
      return e) (SoundTree T) :=
    .bind (expressions_yields (expr_yields _)) fun _ ht =>
      .bind (discard_yields (many_yields mark_yields)) fun _ _ => .bind mark_yields fun _ _ =>
      .pure ht
  exact (whole.sound tokens _ rest (lex_sound hT htokens) hrun).1

end Syntax

end Exemplar
