import Exemplar.Proofs.Parser.Named
import Exemplar.Proofs.Parser.SoundStmt

/-
  Which tokens a statement is read off. The statements of a file stand in its tokens one behind the
  other (`Rows`). Each has the extent of its own tokens for its place, and the tokens of a
  declaration begin with it: with the word of a function, behind its decorators, or with the name
  that a value is bound to, in parentheses or not (`file_rows`).
-/

namespace Exemplar

open Syntax Syntax.Parser

/-- What stands at the front of a declaration: the word of a function or the name that a value is
bound to. -/
inductive Front
  | function (isAsync : Bool)
  | target (n : String)

/-- The word that a function begins with. -/
def functionWord (isAsync : Bool) : String := if isAsync then "async" else "def"

/-- What stands at the front of a statement, if it is a function or binds one name. -/
def Action.front? : Action → Option Front
  | .function isAsync _ _ _ _ _ => some (.function isAsync)
  | .assign [.mk _ (.name n)] _ => some (.target n)
  | .annAssign (.mk _ (.name n)) _ _ _ => some (.target n)
  | _ => none

/-- The tokens of what stands at the front. -/
def Front.Spelled : Front → List Token → Prop
  | .function isAsync, own => ∃ t, own = [t] ∧ t.lexeme = .word (functionWord isAsync)
  | .target n, own => Grouped n own

namespace Syntax.Parser

variable {α β : Type} {T : String → Prop}

/-- The tokens of the statement give its place, and what it declares stands in front of them. -/
structure Row (own : List Token) (s : Stmt) : Prop where
  start : s.start = (extent own).1
  stop : s.stop = (extent own).2
  opens : ∀ f ∈ s.action.front?, ∃ front more, own = front ++ more ∧ f.Spelled front

/-- The statements stand in the tokens one behind the other. -/
inductive Rows : List Token → List Stmt → Prop
  | nil : Rows [] []
  | skip (t : Token) {ts : List Token} {ss : List Stmt} (h : Rows ts ss) : Rows (t :: ts) ss
  | row {own ts : List Token} {s : Stmt} {ss : List Stmt} (hs : Row own s) (h : Rows ts ss) :
    Rows (own ++ ts) (s :: ss)

namespace Rows

theorem append {ts us : List Token} {ss rs : List Stmt} (h : Rows ts ss) (h' : Rows us rs) :
    Rows (ts ++ us) (ss ++ rs) := by
  induction h with
  | nil => exact h'
  | skip t _ ih => exact .skip t ih
  | row hs _ ih =>
    rw [List.append_assoc]
    exact .row hs ih

theorem none (ts : List Token) : Rows ts [] := by
  induction ts with
  | nil => exact .nil
  | cons t ts ih => exact .skip t ih

end Rows

/-! ## Parsers of statements -/

/-- The statements of what the parser reads stand in the tokens that it takes. -/
structure Lists (T : String → Prop) (p : Parser α) (f : α → List Stmt) : Prop where
  run : ∀ ts a rest, SoundTokens T ts → p ts = some (a, rest) →
    ∃ own, ts = own ++ rest ∧ Rows own (f a)

namespace Lists

variable {p : Parser α} {f : α → List Stmt} {g : β → List Stmt} {P : α → Prop}

/-- Tokens in front hold no statement. -/
theorem behind {q : α → Parser β} (hp : Yields T p P) (hq : ∀ a, P a → Lists T (q a) g) :
    Lists T (p >>= q) g := by
  refine ⟨fun ts b rest hts hrun => ?_⟩
  obtain ⟨⟨a, r⟩, ha, hb⟩ := Option.bind_eq_some_iff.mp hrun
  obtain ⟨hPa, lead, rfl⟩ := hp.run ts a r hts ha
  obtain ⟨own, rfl, hown⟩ := (hq a hPa).run r b rest (hts.suffix ⟨lead, rfl⟩) hb
  exact ⟨lead ++ own, (List.append_assoc ..).symm, (Rows.none lead).append hown⟩

/-- Tokens behind hold no statement. -/
theorem before {q : α → Parser β} (hp : Lists T p f) (hq : ∀ a, Yields T (q a) (g · = f a)) :
    Lists T (p >>= q) g := by
  refine ⟨fun ts b rest hts hrun => ?_⟩
  obtain ⟨⟨a, r⟩, ha, hb⟩ := Option.bind_eq_some_iff.mp hrun
  obtain ⟨own, rfl, hown⟩ := hp.run ts a r hts ha
  obtain ⟨hg, more, rfl⟩ := (hq a).run r b rest (hts.suffix ⟨own, rfl⟩) hb
  refine ⟨own ++ more, (List.append_assoc ..).symm, ?_⟩
  rw [hg, ← List.append_nil (f a)]
  exact hown.append (.none more)

theorem orElse {q : Parser α} (hp : Lists T p f) (hq : Lists T q f) : Lists T (p <|> q) f := by
  refine ⟨fun ts a rest hts hrun => ?_⟩
  change (p ts).orElse (fun _ => q ts) = some (a, rest) at hrun
  cases h : p ts with
  | none =>
    rw [h] at hrun
    exact hq.run ts a rest hts hrun
  | some r =>
    rw [h] at hrun
    cases hrun
    exact hp.run ts a rest hts h

theorem many (hp : Lists T p f) : Lists T (many p) (List.flatMap f) := by
  refine ⟨fun ts as rest hts hrun => ?_⟩
  have kept := many_invariant
    (J := fun done r => ∃ own, ts = own ++ r ∧ Rows own (done.reverse.flatMap f))
    (fun done r a rest hd ha => ?_) ⟨[], rfl, .nil⟩ hrun
  · rwa [List.reverse_reverse] at kept
  · obtain ⟨own, rfl, hown⟩ := hd
    obtain ⟨more, rfl, hmore⟩ := hp.run r a rest (hts.suffix ⟨own, rfl⟩) ha
    refine ⟨own ++ more, (List.append_assoc ..).symm, ?_⟩
    rw [List.reverse_cons, List.flatMap_append, List.flatMap_singleton]
    exact hown.append hmore

theorem separated {sep : Parser Unit} (hs : Yields T sep fun _ => True) (hp : Lists T p f) :
    Lists T (separated sep p) (List.flatMap f) := by
  refine ⟨fun ts as rest hts hrun => ?_⟩
  obtain ⟨⟨first, r⟩, hfirst, hrun⟩ := Option.bind_eq_some_iff.mp hrun
  obtain ⟨⟨done, r'⟩, hdone, heq⟩ := Option.bind_eq_some_iff.mp hrun
  cases heq
  obtain ⟨front, rfl, hfront⟩ := hp.run ts first r hts hfirst
  have item : Lists T (do sep; p) f := behind hs fun _ _ => hp
  refine loop_invariant
    (I := fun done s => ∃ own, front ++ r = own ++ s ∧ Rows own (done.reverse.flatMap f))
    (fun done s o rest hd ho => ?_) ⟨front, rfl, ?_⟩ hdone
  · obtain ⟨rfl, rfl⟩ | ⟨b, rfl, hb⟩ := maybe_cases ho
    · exact hd
    · obtain ⟨own, hsplit, hown⟩ := hd
      obtain ⟨⟨u, s₁⟩, hsep, hb⟩ := Option.bind_eq_some_iff.mp hb
      obtain ⟨⟨a, s₂⟩, ha, heq⟩ := Option.bind_eq_some_iff.mp hb
      cases heq
      rw [hsplit] at hts
      obtain ⟨more, rfl, hmore⟩ := item.run s a rest (hts.suffix ⟨own, rfl⟩)
        (Option.bind_eq_some_iff.mpr ⟨(u, s₁), hsep, ha⟩)
      refine ⟨own ++ more, hsplit.trans (List.append_assoc ..).symm, ?_⟩
      show Rows _ ((a :: done).reverse.flatMap f)
      rw [List.reverse_cons, List.flatMap_append, List.flatMap_singleton]
      exact hown.append hmore
  · rw [List.reverse_singleton, List.flatMap_singleton]
    exact hfront

end Lists

/-! ## What stands at the front of a statement -/

/-- What the parser reads is opened by the tokens that it takes. -/
structure Opens (T : String → Prop) (p : Parser Action) : Prop where
  run : ∀ own a rest, SoundTokens T (own ++ rest) → p (own ++ rest) = some (a, rest) →
    ∀ f ∈ a.front?, ∃ front more, own = front ++ more ∧ f.Spelled front

namespace Opens

variable {p q : Parser Action}

theorem of_gives (h : Gives p (·.front? = none)) : Opens T p := by
  refine ⟨fun own a rest _ hrun f hf => ?_⟩
  rw [h.run _ a rest hrun] at hf
  cases hf

theorem look {p : Parser α} {q : α → Parser Action} (hp : Looks p) (h : ∀ a, Opens T (q a)) :
    Opens T (p >>= q) := by
  refine ⟨fun own b rest hts hrun => ?_⟩
  obtain ⟨⟨a, r⟩, ha, hb⟩ := Option.bind_eq_some_iff.mp hrun
  obtain rfl := hp.run _ a r ha
  exact (h a).run own b rest hts hb

theorem ite {c : Prop} [Decidable c] (hp : Opens T p) (hq : Opens T q) :
    Opens T (if c then p else q) := by
  split
  · exact hp
  · exact hq

end Opens

theorem placed_lists {p : Parser Action} {P : Action → Prop} (hp : Yields T p P)
    (ho : Opens T p) : Lists T (placed p) fun s => [s] := by
  refine ⟨fun ts s rest hts hrun => ?_⟩
  obtain ⟨⟨⟨a, own⟩, r⟩, hown, heq⟩ := Option.bind_eq_some_iff.mp hrun
  cases heq
  obtain ⟨⟨a', r⟩, ha, heq⟩ := Option.bind_eq_some_iff.mp hown
  cases heq
  obtain ⟨own, rfl⟩ := (hp.run ts a rest hts ha).2
  refine ⟨own, rfl, ?_⟩
  have htake : (own ++ rest).take ((own ++ rest).length - rest.length) = own := by
    rw [List.length_append, Nat.add_sub_cancel, List.take_left]
  rw [htake]
  have row : Row own (.mk a (extent own).1 (extent own).2) :=
    ⟨rfl, rfl, ho.run own a rest hts ha⟩
  have rows := Rows.row row .nil
  rwa [List.append_nil] at rows

/-- Tokens that are taken first stand in front of all that are taken. -/
theorem front_of_suffix (front : List Token) {own rest r : List Token}
    (h : own ++ rest = front ++ r) (hr : rest <:+ r) : ∃ more, own = front ++ more := by
  obtain ⟨more, rfl⟩ := hr
  rw [← List.append_assoc] at h
  exact ⟨more, List.append_cancel_right h⟩

variable {self : Self} {block : Parser (List Stmt)}

/-! ## Bindings -/

/-- A statement that binds one name binds what an expression is. -/
def Binds (e : Tree) (a : Action) : Prop := ∀ f ∈ a.front?, ∃ n, f = .target n ∧ e.form = .name n

theorem binds_assign (e : Tree) (es : List Tree) (v : Tree) : Binds e (.assign (e :: es) v) := by
  intro f hf
  unfold Action.front? at hf
  split at hf
  · rename_i heq
    cases heq
  · rename_i heq
    cases heq
    cases hf
    exact ⟨_, rfl, rfl⟩
  · rename_i heq
    cases heq
  · cases hf

theorem binds_annAssign (e hint : Tree) (v : Option Tree) (simple : Bool) :
    Binds e (.annAssign e hint v simple) := by
  intro f hf
  unfold Action.front? at hf
  split at hf
  · rename_i heq
    cases heq
  · rename_i heq
    cases heq
  · rename_i heq
    cases heq
    cases hf
    exact ⟨_, rfl, rfl⟩
  · cases hf

theorem assignment_binds (e : Tree) : Gives (assignment self e) (Binds e) := by
  refine .bind fun _ => .bind fun _ => .bind fun value => .andThen
    (Gives.loop (Q := fun s => ∃ more, s.1 = more ++ [e]) (fun s hs => ?_) ⟨[], rfl⟩)
    fun s hs => .bind fun _ => .bind fun _ => .pure ?_
  · obtain ⟨more, hmore⟩ := hs
    exact .bind fun _ => .bind fun _ => .bind fun _ => .pure ⟨s.2 :: more, congrArg _ hmore⟩
  · obtain ⟨more, hmore⟩ := hs
    rw [hmore, List.reverse_append, List.reverse_singleton]
    exact binds_assign e more.reverse s.2

theorem assignOrExpr_opens (hself : SelfNames self) (h : SoundSelf T self) :
    Opens T (assignOrExpr self) := by
  refine .look .atWord fun _ => .ite (.of_gives (.bind fun _ => .pure rfl))
    (.look .atSign fun grouped => ⟨fun own a rest hts hrun f hf => ?_⟩)
  obtain ⟨⟨e, r⟩, he, hrest⟩ := Option.bind_eq_some_iff.mp hrun
  obtain ⟨hsound, hr⟩ := (h .tuple).run _ e r hts he
  have hsuffix := ((firstExpression_yields h grouped hsound).run r a rest (hts.suffix hr) hrest).2
  have hbinds : Binds e a := by
    dsimp only at hrest
    refine Gives.run ?_ r a rest hrest
    refine .bind fun _ => .ite ?_ (.bind fun o => ?_)
    · refine .bind fun _ => .bind fun hint => .bind fun _ => .ite ?_ ?_
      · exact .bind fun v => .pure (binds_annAssign e hint v _)
      · exact .bind fun v => .pure (binds_annAssign e hint v _)
    · cases o with
      | none => exact .bind fun _ => .ite (assignment_binds e) (.pure nofun)
      | some op => exact .bind fun _ => .bind fun _ => .pure nofun
  obtain ⟨n, rfl, hn⟩ := hbinds f hf
  obtain ⟨front, closing, hfront, hgrouped, hclosing⟩ := (hself .tuple).run _ e r n he hn
  obtain rfl := List.map_eq_nil_iff.mp hclosing
  rw [List.append_nil] at hfront
  obtain ⟨more, rfl⟩ := front_of_suffix front hfront hsuffix
  exact ⟨front, more, rfl, hgrouped⟩

theorem importFrom_gives : Gives importFrom (·.front? = none) := by
  refine .bind fun _ => .bind fun level => .bind fun _ => .ite ?_ ?_
  all_goals
    exact .bind fun _ => .bind fun _ => .bind fun _ => .bind fun _ => .bind fun _ =>
      .ite (.pure rfl) (.bind fun _ => .ite (.bind fun _ => .bind fun _ => .pure rfl)
        (.bind fun _ => .pure rfl))

theorem raiseStmt_gives : Gives (raiseStmt self) (·.front? = none) := by
  refine .bind fun _ => .bind fun o => ?_
  cases o with
  | none => exact .pure rfl
  | some e => exact .bind fun _ => .ite (.bind fun _ => .pure rfl) (.pure rfl)

theorem simpleAction_opens (hself : SelfNames self) (h : SoundSelf T self) :
    Opens T (simpleAction self) := by
  refine .look .peek fun x => ?_
  split
  · exact .of_gives (.bind fun _ => .pure rfl)
  · exact .of_gives (.bind fun _ => .pure rfl)
  · exact .of_gives (.bind fun _ => .pure rfl)
  · exact .of_gives (.bind fun _ => .bind fun _ => .pure rfl)
  · exact .of_gives (.bind fun _ => .bind fun _ => .pure rfl)
  · exact .of_gives importFrom_gives
  · exact .of_gives raiseStmt_gives
  · exact .of_gives (.bind fun _ => .bind fun _ => .bind fun _ => .pure rfl)
  · exact .of_gives (.bind fun _ => .bind fun _ => .bind fun _ => .ite (.bind fun _ => .pure rfl)
      (.pure rfl))
  · exact .of_gives (.bind fun _ => .bind fun _ => .pure rfl)
  · exact .of_gives (.bind fun _ => .bind fun _ => .pure rfl)
  · exact assignOrExpr_opens hself h

theorem simpleLine_lists (hself : SelfNames self) (h : SoundSelf T self) :
    Lists T (simpleLine self) id :=
  .before (.separated sign_yields
      (placed_lists (simpleAction_yields h) (simpleAction_opens hself h))) fun xs =>
    .bind (discard_yields skipSign_yields) fun _ _ => .bind mark_yields fun _ _ =>
      .pure (List.flatMap_singleton' xs).symm

/-! ## Definitions -/

theorem functionDef_opens (h : SoundSelf T self) (hb : Yields T block (Each (Stmt.Sound T)))
    (ds : List Tree) : Opens T (functionDef self block ds) := by
  refine ⟨fun own a rest hts hrun f hf => ?_⟩
  obtain ⟨⟨isAsync, r⟩, hasync, hdef⟩ := Option.bind_eq_some_iff.mp hrun
  obtain ⟨⟨u, r'⟩, hword, hname⟩ := Option.bind_eq_some_iff.mp hdef
  obtain ⟨d, rfl, hd⟩ := word_takes hword
  have hr := (skipWord_yields.run _ isAsync _ hts hasync).2
  have hsuffix := ((functionName_yields h hb isAsync ds).run r' a rest
    ((hts.suffix hr).suffix (List.suffix_cons d r')) hname).2
  have hfront : a.front? = some (.function isAsync) := by
    dsimp only at hname
    refine Gives.run (Q := (·.front? = some (.function isAsync))) ?_ r' a rest hname
    exact .bind fun _ => .bind fun _ => .bind fun _ => .bind fun _ => .bind fun _ =>
      .ite (.bind fun _ => .bind fun _ => .pure rfl) (.bind fun _ => .bind fun _ => .pure rfl)
  rw [hfront] at hf
  cases hf
  obtain ⟨rfl, t, hsplit, ht⟩ | ⟨rfl, hsplit⟩ := skipWord_skips.run _ _ _ hasync
  · obtain ⟨more, rfl⟩ := front_of_suffix [t] hsplit
      (hsuffix.trans (List.suffix_cons d r'))
    exact ⟨[t], more, rfl, t, rfl, ht⟩
  · obtain ⟨more, rfl⟩ := front_of_suffix [d] hsplit.symm hsuffix
    exact ⟨[d], more, rfl, d, rfl, hd⟩

theorem classDef_gives (ds : List Tree) : Gives (classDef self block ds) (·.front? = none) :=
  .bind fun _ => .bind fun _ => .bind fun _ => .ite (.bind fun _ => .bind fun _ => .pure rfl)
    (.bind fun _ => .bind fun _ => .pure rfl)

theorem definition_lists (h : SoundSelf T self) (hb : Yields T block (Each (Stmt.Sound T))) :
    Lists T (definition self block) fun s => [s] :=
  .behind (many_yields (decorator_yields h)) fun ds _ => placed_lists
    (.bind atWord_yields fun _ _ => .ite (classDef_yields h hb ds) (functionDef_yields h hb ds))
    (.look .atWord fun _ => .ite (.of_gives (classDef_gives ds)) (functionDef_opens h hb ds))

/-! ## Statements that declare nothing -/

theorem ifStmt_gives : Gives (ifStmt self block) (·.front? = none) :=
  .bind fun _ => .bind fun _ => .pure rfl

theorem whileStmt_gives : Gives (whileStmt self block) (·.front? = none) :=
  .bind fun _ => .bind fun _ => .bind fun _ => .bind fun _ => .pure rfl

theorem forStmt_gives : Gives (forStmt self block) (·.front? = none) :=
  .bind fun _ => .bind fun _ => .bind fun _ => .bind fun _ => .bind fun _ => .bind fun _ =>
    .bind fun _ => .pure rfl

theorem withStmt_gives : Gives (withStmt self block) (·.front? = none) :=
  .bind fun _ => .bind fun _ => .bind fun _ => .bind fun _ => .pure rfl

theorem tryStmt_gives : Gives (tryStmt self block) (·.front? = none) := by
  refine .bind fun _ => .bind fun _ => .bind fun _ => .bind fun _ => .ite ?_ ?_
  all_goals exact .bind fun _ => .bind fun _ => .bind fun _ => .pure rfl

theorem matchStmt_gives {p : Parser Pattern} :
    Gives (matchStmt self p block) (·.front? = none) := by
  refine .bind fun _ => .bind fun r => ?_
  split
  · exact .bind fun _ => .bind fun _ => .bind fun _ => .bind fun _ => .bind fun _ =>
      .bind fun _ => .bind fun _ => .bind fun _ => .pure rfl
  · exact .bind fun _ => .bind fun _ => .bind fun _ => .bind fun _ =>
      .bind fun _ => .bind fun _ => .bind fun _ => .pure rfl

/-! ## Files -/

theorem statementStep_lists (hself : SelfNames self) (h : SoundSelf T self) {p : Parser Pattern}
    (hp : Yields T p fun _ => True) (hb : Yields T block (Each (Stmt.Sound T))) :
    Lists T (statementStep self p block) id := by
  have one : ∀ {p : Parser Stmt}, Lists T p (fun s => [s]) → Lists T (do return [← p]) id :=
    fun hp => .before hp fun _ => .pure rfl
  have other : ∀ {p : Parser Action}, Yields T p (Action.Sound T) →
      Gives p (·.front? = none) → Lists T (do return [← placed p]) id :=
    fun hp hg => one (placed_lists hp (.of_gives hg))
  refine .behind peek_yields fun x _ => ?_
  split
  · exact other (ifStmt_yields h hb) ifStmt_gives
  · exact other (whileStmt_yields h hb) whileStmt_gives
  · exact other (forStmt_yields h hb) forStmt_gives
  · exact other (tryStmt_yields h hb) tryStmt_gives
  · exact other (withStmt_yields h hb) withStmt_gives
  · exact one (definition_lists h hb)
  · exact one (definition_lists h hb)
  · exact one (definition_lists h hb)
  · refine .behind peekSecond_yields fun y _ => ?_
    split
    · exact other (forStmt_yields h hb) forStmt_gives
    · exact other (withStmt_yields h hb) withStmt_gives
    · exact one (definition_lists h hb)
  · exact .orElse (other (matchStmt_yields h hp hb) matchStmt_gives) (simpleLine_lists hself h)
  · exact simpleLine_lists hself h

theorem statement_lists (hself : SelfNames self) (h : SoundSelf T self) {p : Parser Pattern}
    (hp : Yields T p fun _ => True) (n : Nat) : Lists T (statement self p n) id := by
  cases n with
  | zero => exact ⟨nofun⟩
  | succ n => exact statementStep_lists hself h hp (block_yields h (statement_yields h hp n))

/-- The statements of a file stand in its tokens. -/
theorem file_lists (hself : SelfNames self) (h : SoundSelf T self) {p : Parser Pattern}
    (hp : Yields T p fun _ => True) (n : Nat) : Lists T (file self p n) id :=
  .before (.many (statement_lists hself h hp n)) fun _ => .bind mark_yields fun _ _ =>
    .pure List.flatMap_id.symm

end Syntax.Parser

namespace Syntax

open Exemplar.Syntax.Parser

/-- The statements of a source stand in its tokens one behind the other. -/
theorem parseFile_rows {cs : List Char} {body : List Stmt} (h : parseFile? cs = some body) :
    ∃ own rest, (lex cs).tokens? = some (own ++ rest) ∧ Rows own body := by
  obtain ⟨tokens, htokens, h⟩ := Option.bind_eq_some_iff.mp h
  obtain ⟨⟨ss, rest⟩, hrun, heq⟩ := Option.bind_eq_some_iff.mp h
  cases heq
  have hsound : SoundTokens AnyText tokens := lex_sound (fun _ _ => trivial) htokens
  obtain ⟨own, rfl, hown⟩ := (file_lists (expr_names (stepsFor cs.length)) (expr_yields _)
    (pattern_yields _) _).run tokens body rest hsound hrun
  exact ⟨own, rest, htokens, hown⟩

end Syntax

end Exemplar
