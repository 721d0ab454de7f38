import Exemplar.Proofs.Parser.Yields

/-
  Expressions that are names. A parser of expressions that reads a name has taken that name, in
  parentheses or not, and nothing else: at every strength, a rule that takes more builds another
  form (`expr_names`). The induction is on the strength of the parsers inside; what a rule does
  after its first operand either hands that operand back untouched or makes no name of it (`Keeps`).
-/

namespace Exemplar.Syntax.Parser

variable {α β : Type}

/-- The tokens are a name, in parentheses or not. -/
inductive Grouped (n : String) : List Token → Prop
  | name {t : Token} (h : t.lexeme = .word n) : Grouped n [t]
  | group {o c : Token} {ts : List Token} (ho : o.lexeme = .op "(") (hts : Grouped n ts)
      (hc : c.lexeme = .op ")") : Grouped n (o :: (ts ++ [c]))

/-- The expression is no name. -/
def Unnamed (e : Tree) : Prop := ∀ n, e.form ≠ .name n

/-! ## Parsers that read no names -/

/-- Whatever the parser reads has a property. -/
structure Gives (p : Parser α) (Q : α → Prop) : Prop where
  run : ∀ ts a rest, p ts = some (a, rest) → Q a

namespace Gives

variable {p : Parser α} {Q : α → Prop} {R : β → Prop}

theorem pure {a : α} (h : Q a) : Gives (Pure.pure a) Q := by
  refine ⟨?_⟩
  rintro ts b rest ⟨⟩
  exact h

theorem failure : Gives (failure : Parser α) Q := ⟨nofun⟩

/-- What is read before does not matter. -/
theorem bind {f : α → Parser β} (h : ∀ a, Gives (f a) R) : Gives (p >>= f) R := by
  refine ⟨fun ts b rest hrun => ?_⟩
  obtain ⟨⟨a, r⟩, -, hb⟩ := Option.bind_eq_some_iff.mp hrun
  exact (h a).run r b rest hb

/-- What is read before has a property. -/
theorem andThen {f : α → Parser β} (hp : Gives p Q) (h : ∀ a, Q a → Gives (f a) R) :
    Gives (p >>= f) R := by
  refine ⟨fun ts b rest hrun => ?_⟩
  obtain ⟨⟨a, r⟩, ha, hb⟩ := Option.bind_eq_some_iff.mp hrun
  exact (h a (hp.run ts a r ha)).run r b rest hb

theorem ite {c : Prop} [Decidable c] {q : Parser α} (hp : Gives p Q) (hq : Gives q Q) :
    Gives (if c then p else q) Q := by
  split
  · exact hp
  · exact hq

/-- A loop of a step that fails where it ends. -/
theorem loop {step : α → Parser α} {a : α} (h : ∀ a, Q a → Gives (step a) Q) (ha : Q a) :
    Gives (loop (fun a => maybe (step a)) a) Q := by
  refine ⟨fun ts b rest hrun => loop_invariant (I := fun a _ => Q a) (fun a ts o r hI ho => ?_)
    ha hrun⟩
  obtain ⟨rfl, -⟩ | ⟨b, rfl, hb⟩ := maybe_cases ho
  · exact hI
  · exact (h a hI).run ts b r hb

/-- An expression on a line is of the form that is read. -/
theorem located {p : Parser Form} (h : Gives p fun f => ∀ n, f ≠ .name n) :
    Gives (located p) Unnamed :=
  .bind fun _ => .andThen h fun _ hf => .pure hf

end Gives

/-! ## Parsers that take no tokens -/

/-- The parser takes no tokens. -/
structure Looks (p : Parser α) : Prop where
  run : ∀ ts a rest, p ts = some (a, rest) → rest = ts

namespace Looks

variable {p : Parser α}

theorem pure {a : α} : Looks (Pure.pure a) := by
  refine ⟨?_⟩
  rintro ts b rest ⟨⟩
  rfl

theorem bind {f : α → Parser β} (hp : Looks p) (hf : ∀ a, Looks (f a)) : Looks (p >>= f) := by
  refine ⟨fun ts b rest hrun => ?_⟩
  obtain ⟨⟨a, r⟩, ha, hb⟩ := Option.bind_eq_some_iff.mp hrun
  exact ((hf a).run r b rest hb).trans (hp.run ts a r ha)

theorem ite {c : Prop} [Decidable c] {q : Parser α} (hp : Looks p) (hq : Looks q) :
    Looks (if c then p else q) := by
  split
  · exact hp
  · exact hq

theorem peek : Looks peek := by
  refine ⟨fun ts a rest hrun => ?_⟩
  cases ts <;> cases hrun <;> rfl

theorem peekSecond : Looks peekSecond := by
  refine ⟨fun ts a rest hrun => ?_⟩
  rcases ts with _ | ⟨t, _ | ⟨u, ts⟩⟩ <;> cases hrun <;> rfl

theorem line : Looks line := by
  refine ⟨fun ts a rest hrun => ?_⟩
  cases ts <;> cases hrun <;> rfl

theorem atSign {s : String} : Looks (atSign s) := .bind .peek fun _ => .pure

theorem atWord {w : String} : Looks (atWord w) := .bind .peek fun _ => .pure

theorem atNamed : Looks atNamed := .bind .peekSecond fun _ => .pure

theorem atClause : Looks atClause :=
  .bind .atWord fun _ => .ite .pure (.bind .peek fun _ => .bind .peekSecond fun _ => .pure)

theorem require {b : Bool} : Looks (require b) := .ite .pure ⟨nofun⟩

end Looks

/-! ## What one token gives -/

theorem take_takes {f : Lexeme → Option α} {a : α} {ts rest : List Token}
    (h : take f ts = some (a, rest)) : ∃ t, ts = t :: rest ∧ f t.lexeme = some a := by
  cases ts with
  | nil => cases h
  | cons t ts =>
    obtain ⟨b, hb, heq⟩ := Option.map_eq_some_iff.mp h
    cases heq
    exact ⟨t, rfl, hb⟩

theorem sign_takes {s : String} {ts rest : List Token} {u : Unit}
    (h : sign s ts = some (u, rest)) : ∃ t, ts = t :: rest ∧ t.lexeme = .op s := by
  obtain ⟨t, rfl, ht⟩ := take_takes h
  refine ⟨t, rfl, ?_⟩
  split at ht
  · rename_i o hx
    split at ht
    · rename_i ho
      rw [hx, beq_iff_eq.mp ho]
    · cases ht
  · cases ht

theorem word_takes {w : String} {ts rest : List Token} {u : Unit}
    (h : word w ts = some (u, rest)) : ∃ t, ts = t :: rest ∧ t.lexeme = .word w := by
  obtain ⟨t, rfl, ht⟩ := take_takes h
  refine ⟨t, rfl, ?_⟩
  split at ht
  · rename_i o hx
    split at ht
    · rename_i ho
      rw [hx, beq_iff_eq.mp ho]
    · cases ht
  · cases ht

theorem name_takes {n : String} {ts rest : List Token} (h : name ts = some (n, rest)) :
    ∃ t, ts = t :: rest ∧ t.lexeme = .word n := by
  obtain ⟨t, rfl, ht⟩ := take_takes h
  refine ⟨t, rfl, ?_⟩
  split at ht
  · rename_i w hx
    split at ht
    · cases ht
    · cases ht
      exact hx
  · cases ht

/-- The parser takes a token of a lexeme if it is next and says whether it did. -/
structure Skips (p : Parser Bool) (x : Lexeme) : Prop where
  run : ∀ ts b rest, p ts = some (b, rest) →
    (b = true ∧ ∃ t, ts = t :: rest ∧ t.lexeme = x) ∨ (b = false ∧ rest = ts)

theorem Skips.of_takes {p : Parser Unit} {x : Lexeme}
    (h : ∀ ts u rest, p ts = some (u, rest) → ∃ t, ts = t :: rest ∧ t.lexeme = x) :
    Skips ((do p; Pure.pure true) <|> Pure.pure false) x := by
  refine ⟨fun ts b rest hrun => ?_⟩
  change ((p ts).bind fun r => some (true, r.2)).orElse (fun _ => some (false, ts)) =
    some (b, rest) at hrun
  cases hp : p ts with
  | none =>
    rw [hp] at hrun
    cases hrun
    exact .inr ⟨rfl, rfl⟩
  | some r =>
    rw [hp] at hrun
    cases hrun
    exact .inl ⟨rfl, h ts _ _ hp⟩

theorem skipSign_skips {s : String} : Skips (skipSign s) (.op s) :=
  .of_takes fun _ _ _ => sign_takes

theorem skipWord_skips {w : String} : Skips (skipWord w) (.word w) :=
  .of_takes fun _ _ _ => word_takes

/-! ## Loops that end at once -/

theorem many_nil {p : Parser α} {ts rest : List Token} (h : many p ts = some ([], rest)) :
    rest = ts := by
  have kept := many_invariant (J := fun done r => done = [] → r = ts)
    (fun done _ a _ _ _ h => absurd h (List.cons_ne_nil a done)) (fun _ => rfl) h
  exact kept rfl

theorem separated_one {sep : Parser Unit} {p : Parser α} {a : α} {ts rest : List Token}
    (h : separated sep p ts = some ([a], rest)) : p ts = some (a, rest) := by
  obtain ⟨⟨first, r⟩, hfirst, h⟩ := Option.bind_eq_some_iff.mp h
  obtain ⟨⟨done, r'⟩, hdone, heq⟩ := Option.bind_eq_some_iff.mp h
  have kept : (done = [first] ∧ r' = r) ∨ 2 ≤ done.length := by
    refine loop_invariant (I := fun done s => (done = [first] ∧ s = r) ∨ 2 ≤ done.length)
      (fun done s o s' hd ho => ?_) (.inl ⟨rfl, rfl⟩) hdone
    obtain ⟨rfl, rfl⟩ | ⟨b, rfl, hb⟩ := maybe_cases ho
    · exact hd
    · obtain ⟨⟨_, s₁⟩, -, hb⟩ := Option.bind_eq_some_iff.mp hb
      obtain ⟨⟨c, s₂⟩, -, heq⟩ := Option.bind_eq_some_iff.mp hb
      cases heq
      refine .inr ?_
      show 2 ≤ (c :: done).length
      obtain ⟨rfl, -⟩ | hlen := hd
      · exact Nat.le_refl 2
      · exact Nat.le_succ_of_le hlen
  obtain ⟨hrev, rfl⟩ := Prod.mk.inj (Option.some.inj heq)
  obtain ⟨rfl, rfl⟩ | hlen := kept
  · cases hrev
    exact hfirst
  · have := congrArg List.length hrev
    rw [List.length_reverse, List.length_singleton] at this
    omega

/-! ## Parsers that read a name only where one stands -/

section Names

variable {close : List Lexeme} {e : Tree}

/-- The parser hands an expression back after it took tokens of some lexemes, or reads no name. -/
structure Keeps (close : List Lexeme) (e : Tree) (q : Parser Tree) : Prop where
  run : ∀ ts e' rest, q ts = some (e', rest) →
    (e' = e ∧ ∃ own, ts = own ++ rest ∧ own.map (·.lexeme) = close) ∨ Unnamed e'

/-- Where the parser reads a name, it takes that name, in parentheses or not, and then tokens of
some lexemes. -/
structure Names (close : List Lexeme) (q : Parser Tree) : Prop where
  run : ∀ ts e rest n, q ts = some (e, rest) → e.form = .name n →
    ∃ own closing, ts = own ++ closing ++ rest ∧ Grouped n own ∧ closing.map (·.lexeme) = close

namespace Keeps

theorem pure : Keeps [] e (Pure.pure e) := by
  refine ⟨?_⟩
  rintro ts e' rest ⟨⟩
  exact .inl ⟨rfl, [], rfl, rfl⟩

theorem of_gives {q : Parser Tree} (h : Gives q Unnamed) : Keeps close e q :=
  ⟨fun ts e' rest hrun => .inr (h.run ts e' rest hrun)⟩

theorem look {p : Parser α} {f : α → Parser Tree} (hp : Looks p) (h : ∀ a, Keeps close e (f a)) :
    Keeps close e (p >>= f) := by
  refine ⟨fun ts e' rest hrun => ?_⟩
  obtain ⟨⟨a, r⟩, ha, hb⟩ := Option.bind_eq_some_iff.mp hrun
  obtain rfl := hp.run ts a r ha
  exact (h a).run r e' rest hb

theorem ite {c : Prop} [Decidable c] {p q : Parser Tree} (hp : Keeps close e p)
    (hq : Keeps close e q) : Keeps close e (if c then p else q) := by
  split
  · exact hp
  · exact hq

/-- What follows a token reads no name, or the token is not there. -/
theorem skip {p : Parser Bool} {x : Lexeme} {q q' : Parser Tree} (hp : Skips p x)
    (hq : Gives q Unnamed) (hq' : Keeps close e q') :
    Keeps close e (p >>= fun b => if b = true then q else q') := by
  refine ⟨fun ts e' rest hrun => ?_⟩
  obtain ⟨⟨b, r⟩, ha, hb⟩ := Option.bind_eq_some_iff.mp hrun
  obtain ⟨rfl, -⟩ | ⟨rfl, rfl⟩ := hp.run ts b r ha
  · exact .inr (hq.run r e' rest hb)
  · exact hq'.run r e' rest hb

/-- A token closes what has been read, or what follows reads no name. -/
theorem closed {p : Parser Bool} {x : Lexeme} {q q' : Parser Tree} (hp : Skips p x)
    (hq : Keeps [] e q) (hq' : Gives q' Unnamed) :
    Keeps [x] e (p >>= fun b => if b = true then q else q') := by
  refine ⟨fun ts e' rest hrun => ?_⟩
  obtain ⟨⟨b, r⟩, ha, hb⟩ := Option.bind_eq_some_iff.mp hrun
  obtain ⟨rfl, t, rfl, ht⟩ | ⟨rfl, rfl⟩ := hp.run ts b r ha
  · obtain ⟨rfl, own, rfl, hown⟩ | hno := hq.run r e' rest hb
    · obtain rfl := List.map_eq_nil_iff.mp hown
      exact .inl ⟨rfl, [t], rfl, congrArg (fun x => [x]) ht⟩
    · exact .inr hno
  · exact .inr (hq'.run r e' rest hb)

end Keeps

namespace Names

theorem of_gives {q : Parser Tree} (h : Gives q Unnamed) : Names close q :=
  ⟨fun ts e rest n hrun hn => absurd hn (h.run ts e rest hrun n)⟩

theorem look {p : Parser α} {f : α → Parser Tree} (hp : Looks p) (h : ∀ a, Names close (f a)) :
    Names close (p >>= f) := by
  refine ⟨fun ts e rest n hrun hn => ?_⟩
  obtain ⟨⟨a, r⟩, ha, hb⟩ := Option.bind_eq_some_iff.mp hrun
  obtain rfl := hp.run ts a r ha
  exact (h a).run r e rest n hb hn

theorem ite {c : Prop} [Decidable c] {p q : Parser Tree} (hp : Names close p)
    (hq : Names close q) : Names close (if c then p else q) := by
  split
  · exact hp
  · exact hq

theorem skip {p : Parser Bool} {x : Lexeme} {q q' : Parser Tree} (hp : Skips p x)
    (hq : Gives q Unnamed) (hq' : Names close q') :
    Names close (p >>= fun b => if b = true then q else q') := by
  refine ⟨fun ts e rest n hrun hn => ?_⟩
  obtain ⟨⟨b, r⟩, ha, hb⟩ := Option.bind_eq_some_iff.mp hrun
  obtain ⟨rfl, -⟩ | ⟨rfl, rfl⟩ := hp.run ts b r ha
  · exact absurd hn (hq.run r e rest hb n)
  · exact hq'.run r e rest n hb hn

/-- A first operand, and what is done with it. -/
theorem bind {p : Parser Tree} {f : Tree → Parser Tree} (hp : Names [] p)
    (h : ∀ e, Keeps close e (f e)) : Names close (p >>= f) := by
  refine ⟨fun ts e' rest n hrun hn => ?_⟩
  obtain ⟨⟨e, r⟩, ha, hb⟩ := Option.bind_eq_some_iff.mp hrun
  obtain ⟨rfl, closing, rfl, hclosing⟩ | hno := (h e).run r e' rest hb
  · obtain ⟨own, none, rfl, hown, hnone⟩ := hp.run ts e' _ n ha hn
    obtain rfl := List.map_eq_nil_iff.mp hnone
    exact ⟨own, closing, by rw [List.append_nil, List.append_assoc], hown, hclosing⟩
  · exact absurd hn (hno n)

/-- Operands from the left: whatever extends the first is no name. -/
theorem chain {first : Parser Tree} {step : Tree → Parser Tree} (hf : Names [] first)
    (hs : ∀ e, Gives (step e) Unnamed) : Names [] (chain first step) := by
  refine .bind hf fun e => ⟨fun ts e' rest hrun => ?_⟩
  have kept : (e' = e ∧ rest = ts) ∨ Unnamed e' := by
    refine loop_invariant (I := fun e' r => (e' = e ∧ r = ts) ∨ Unnamed e')
      (fun e' r o r' he ho => ?_) (.inl ⟨rfl, rfl⟩) hrun
    obtain ⟨rfl, rfl⟩ | ⟨e'', rfl, hb⟩ := maybe_cases ho
    · exact he
    · exact .inr ((hs e').run r e'' r' hb)
  obtain ⟨rfl, rfl⟩ | hno := kept
  · exact .inl ⟨rfl, [], rfl, rfl⟩
  · exact .inr hno

end Names

/-! ## Expressions by strength -/

variable {self : Self}

theorem starred_gives {level : Strength} : Gives (starred self level) Unnamed :=
  .located (.bind fun _ => .bind fun _ => .pure nofun)

theorem yieldExpr_gives : Gives (yieldExpr self) Unnamed :=
  .located (.bind fun _ => .bind fun _ => .ite (.bind fun _ => .pure nofun)
    (.bind fun _ => .pure nofun))

theorem lambdaExpr_gives : Gives (lambdaExpr self) Unnamed :=
  .located (.bind fun _ => .bind fun _ => .bind fun _ => .bind fun _ => .pure nofun)

theorem bracket_gives (l : Nat) : Gives (bracket self l) Unnamed :=
  .bind fun _ => .ite (.pure nofun) (.bind fun _ => .bind fun _ => .bind fun _ => .ite
    (.bind fun _ => .bind fun _ => .bind fun _ => .pure nofun)
    (.bind fun _ => .ite (.pure nofun) (.bind fun _ => .bind fun _ => .ite (.pure nofun)
      (.bind fun _ => .bind fun _ => .pure nofun))))

theorem setRest_gives (l : Nat) (isStarred : Bool) (first : Tree) :
    Gives (setRest self l isStarred first) Unnamed :=
  .bind fun _ => .ite (.bind fun _ => .bind fun _ => .bind fun _ => .pure nofun)
    (.bind fun _ => .ite (.pure nofun) (.bind fun _ => .bind fun _ => .ite (.pure nofun)
      (.bind fun _ => .bind fun _ => .pure nofun)))

theorem dictRest_gives (l : Nat) (first : Option Tree × Tree) :
    Gives (dictRest self l first) Unnamed :=
  .bind fun _ => .ite (.bind fun _ => .bind fun _ => .bind fun _ => .pure nofun)
    (.bind fun _ => .ite (.pure nofun) (.bind fun _ => .bind fun _ => .ite (.pure nofun)
      (.bind fun _ => .bind fun _ => .pure nofun)))

theorem brace_gives (l : Nat) : Gives (brace self l) Unnamed :=
  .bind fun _ => .ite (.pure nofun) (.bind fun _ => .ite (.bind fun _ => dictRest_gives l _)
    (.bind fun _ => .ite (.bind fun _ => setRest_gives l true _)
      (.bind fun _ => .ite (.bind fun _ => setRest_gives l false _)
        (.bind fun _ => .bind fun _ => .ite (.bind fun _ => dictRest_gives l _)
          (.bind fun _ => .bind fun _ => setRest_gives l false _)))))

theorem texts_gives : Gives (texts self) Unnamed := by
  refine ⟨fun ts e rest hrun => ?_⟩
  obtain ⟨l, f, rfl, hf⟩ := texts_form hrun
  cases hf <;> exact nofun

theorem trailer_gives (e : Tree) : Gives (trailer self e) Unnamed := by
  refine .bind fun _ => .bind fun x => ?_
  split
  · exact .bind fun _ => .bind fun _ => .pure nofun
  · exact .bind fun _ => .bind fun _ => .bind fun _ => .pure nofun
  · exact .bind fun _ => .bind fun _ => .pure nofun
  · exact .failure

/-- The parsers for the expressions inside an expression read a name only where one stands. -/
def SelfNames (self : Self) : Prop := ∀ s, Names [] (self s)

theorem starOr_names (h : SelfNames self) (level : Strength) : Names [] (starOr self level) :=
  .look .atSign fun _ => .ite (.of_gives starred_gives) (h level)

theorem wordAtom_names (w : String) : Names [] (wordAtom w) := by
  unfold wordAtom
  split
  · exact .of_gives (.located (.bind fun _ => .pure nofun))
  · exact .of_gives (.located (.bind fun _ => .pure nofun))
  · exact .of_gives (.located (.bind fun _ => .pure nofun))
  · refine ⟨fun ts e rest n hrun hn => ?_⟩
    obtain ⟨⟨l, r⟩, hl, hform⟩ := Option.bind_eq_some_iff.mp hrun
    obtain rfl := Looks.line.run ts l r hl
    obtain ⟨⟨f, r'⟩, hf, heq⟩ := Option.bind_eq_some_iff.mp hform
    obtain ⟨⟨m, r''⟩, hm, hf⟩ := Option.bind_eq_some_iff.mp hf
    cases hf
    cases heq
    obtain rfl : m = n := Form.name.inj hn
    obtain ⟨t, rfl, ht⟩ := name_takes hm
    exact ⟨[t], [], rfl, .name ht, rfl⟩

theorem parenthesis_names (h : SelfNames self) (l : Nat) :
    Names [.op ")"] (parenthesis self l) := by
  refine .skip skipSign_skips (.pure nofun) (.look .atWord fun _ => .ite
    (.of_gives (.andThen yieldExpr_gives fun _ he => .bind fun _ => .pure he)) ?_)
  refine .look .atSign fun _ => .bind (starOr_names h .named) fun first =>
    .look .atClause fun _ => .ite (.of_gives ?_) (.closed skipSign_skips ?_ ?_)
  · exact .bind fun _ => .bind fun _ => .bind fun _ => .pure nofun
  · exact .look .require fun _ => .pure
  · exact .bind fun _ => .bind fun _ => .ite (.pure nofun)
      (.bind fun _ => .bind fun _ => .pure nofun)

theorem atom_names (h : SelfNames self) : Names [] (atom self) := by
  refine .look .line fun l => .look .peek fun x => ?_
  split
  · exact wordAtom_names _
  · exact .of_gives (.bind fun _ => .pure nofun)
  · exact .of_gives texts_gives
  · refine ⟨fun ts e rest n hrun hn => ?_⟩
    obtain ⟨⟨u, r⟩, hu, hinner⟩ := Option.bind_eq_some_iff.mp hrun
    obtain ⟨o, rfl, ho⟩ := sign_takes hu
    obtain ⟨own, closing, rfl, hown, hc⟩ := (parenthesis_names h l).run r e rest n hinner hn
    obtain ⟨c, rfl, hsign⟩ := List.map_eq_singleton_iff.mp hc
    exact ⟨o :: (own ++ [c]), [], by simp, .group ho hown hsign, rfl⟩
  · exact .of_gives (.bind fun _ => bracket_gives l)
  · exact .of_gives (.bind fun _ => brace_gives l)
  · exact .of_gives (.bind fun _ => .pure nofun)
  · exact .of_gives .failure

theorem commaList_names {p : Parser Tree} (hp : Names [] p) :
    Names [] (tupleUnlessOne <$> commaList p) := by
  refine ⟨fun ts e rest n hrun hn => ?_⟩
  obtain ⟨⟨xs, r⟩, hxs, heq⟩ := Option.bind_eq_some_iff.mp hrun
  cases heq
  obtain ⟨⟨as, r₁⟩, has, hb⟩ := Option.bind_eq_some_iff.mp hxs
  obtain ⟨⟨b, r₂⟩, hskip, heq⟩ := Option.bind_eq_some_iff.mp hb
  cases heq
  unfold tupleUnlessOne at hn
  split at hn
  · rename_i x hx
    obtain ⟨rfl, rfl⟩ := Prod.mk.inj hx
    obtain ⟨hb, -⟩ | ⟨-, rfl⟩ := skipSign_skips.run _ _ _ hskip
    · cases hb
    · exact hp.run ts x _ n (separated_one has) hn
  · cases hn

theorem connected_names {op : BoolOp} {w : String} {operand : Parser Tree}
    (hp : Names [] operand) : Names [] (connected op w operand) := by
  refine ⟨fun ts e rest n hrun hn => ?_⟩
  obtain ⟨⟨es, r⟩, hes, hrun⟩ := Option.bind_eq_some_iff.mp hrun
  dsimp only at hrun
  split at hrun
  · cases hrun
    exact hp.run ts e _ n (separated_one hes) hn
  · cases hrun
    cases hn

theorem namedExpr_names (h : SelfNames self) : Names [] (namedExpr self) :=
  .look .atNamed fun _ => .ite
    (.of_gives (.located (.bind fun _ => .bind fun _ => .bind fun _ => .pure nofun)))
    (.bind (h .test) fun _ => .look .atSign fun _ => .look .require fun _ => .pure)

theorem conditional_names (h : SelfNames self) : Names [] (conditional self) :=
  .look .atWord fun _ => .ite (.of_gives lambdaExpr_gives)
    (.bind (h .or) fun _ => .skip skipWord_skips
      (.bind fun _ => .bind fun _ => .bind fun _ => .pure nofun) .pure)

theorem negation_names (h : SelfNames self) : Names [] (negation self) :=
  .look .atWord fun _ => .ite
    (.of_gives (.located (.bind fun _ => .bind fun _ => .pure nofun))) (h .compare)

theorem comparison_names (h : SelfNames self) : Names [] (comparison self) := by
  refine .bind (h .bitOr) fun left => ⟨fun ts e rest hrun => ?_⟩
  obtain ⟨⟨cs, r⟩, hcs, hrun⟩ := Option.bind_eq_some_iff.mp hrun
  cases cs with
  | nil =>
    cases hrun
    exact .inl ⟨rfl, [], by rw [many_nil hcs, List.nil_append], rfl⟩
  | cons c cs =>
    cases hrun
    exact .inr nofun

theorem binary_names (h : SelfNames self) (level next : Strength) :
    Names [] (binary self level next) :=
  .chain (h next) fun _ => .bind fun _ => .bind fun _ => .pure nofun

theorem factor_names (h : SelfNames self) : Names [] (factor self) := by
  refine .look .line fun l => ⟨fun ts e rest n hrun hn => ?_⟩
  obtain ⟨⟨o, r⟩, ho, hoperand⟩ := Option.bind_eq_some_iff.mp hrun
  obtain ⟨rfl, rfl⟩ | ⟨op, rfl, -⟩ := maybe_cases ho
  · exact (h .power).run r e rest n hoperand hn
  · obtain ⟨⟨u, r'⟩, -, heq⟩ := Option.bind_eq_some_iff.mp hoperand
    cases heq
    cases hn

theorem power_names (h : SelfNames self) : Names [] (power self) :=
  .bind (h .await) fun _ => .skip skipSign_skips (.bind fun _ => .pure nofun) .pure

theorem awaitExpr_names (h : SelfNames self) : Names [] (awaitExpr self) :=
  .look .line fun _ => .skip skipWord_skips (.bind fun _ => .pure nofun) (h .atom)

theorem step_names (h : SelfNames self) : SelfNames (step self)
  | .yield => .look .atWord fun _ => .ite (.of_gives yieldExpr_gives) (h .tuple)
  | .tuple => commaList_names (starOr_names h .test)
  | .named => namedExpr_names h
  | .test => conditional_names h
  | .or => connected_names (h .and)
  | .and => connected_names (h .not)
  | .not => negation_names h
  | .compare => comparison_names h
  | .bitOr => binary_names h .bitOr .bitXor
  | .bitXor => binary_names h .bitXor .bitAnd
  | .bitAnd => binary_names h .bitAnd .shift
  | .shift => binary_names h .shift .arith
  | .arith => binary_names h .arith .term
  | .term => binary_names h .term .factor
  | .factor => factor_names h
  | .power => power_names h
  | .await => awaitExpr_names h
  | .atom => .chain (atom_names h) trailer_gives

/-- At every strength, a name is read only where one stands, in parentheses or not. -/
theorem expr_names (n : Nat) : SelfNames (expr n) := by
  induction n with
  | zero => exact fun _ => .of_gives .failure
  | succ n ih => exact step_names ih

end Names

end Exemplar.Syntax.Parser
