import Exemplar.Proofs.Parser.Runs
import Exemplar.Syntax.Parser.Expr

/-
  Reading an expression of a strength. `Reads s ls t` says that the lexemes `ls`, wherever they
  stand on one line in front of something that does not extend them, are read as the tree `t`. A
  level whose operators are not there reads what the next stronger level reads (`step_climbs`), so
  that whatever an atom reads is read at all weaker levels (`Reads.climb`). The fuel of the parser
  is measured in lexemes: a bracket costs one lexeme at least, and there are fewer than twenty
  levels.

  Atoms: each lexeme that is an expression by itself is read as one, and so is a number with a minus
  sign in front of it.
-/

namespace Exemplar.Syntax.Parser

/-! ## Lexemes on a line -/

/-- The tokens have the lexemes, all of them on one line. -/
def Spells (line : Nat) (ts : List Token) (ls : List Lexeme) : Prop :=
  ts.map (fun t => (t.lexeme, t.start.line)) = ls.map fun x => (x, line)

namespace Spells

variable {line : Nat} {ts us : List Token} {ls ms : List Lexeme}

theorem nil : Spells line [] [] := rfl

theorem cons {t : Token} {x : Lexeme} (hx : t.lexeme = x) (hl : t.start.line = line)
    (h : Spells line ts ls) : Spells line (t :: ts) (x :: ls) := by
  unfold Spells at *
  rw [List.map_cons, List.map_cons, h, hx, hl]

theorem length (h : Spells line ts ls) : ts.length = ls.length := by
  have := congrArg List.length h
  rwa [List.length_map, List.length_map] at this

theorem of_cons {x : Lexeme} (h : Spells line ts (x :: ls)) :
    ∃ t us, ts = t :: us ∧ t.lexeme = x ∧ t.start.line = line ∧ Spells line us ls := by
  cases ts with
  | nil => cases h
  | cons t us =>
    obtain ⟨hx, hl⟩ := Prod.mk.inj (List.cons.inj h).1
    exact ⟨t, us, rfl, hx, hl, (List.cons.inj h).2⟩

theorem of_append (h : Spells line ts (ls ++ ms)) :
    ∃ us vs, ts = us ++ vs ∧ Spells line us ls ∧ Spells line vs ms := by
  unfold Spells at h
  rw [List.map_append, List.map_eq_append_iff] at h
  obtain ⟨us, vs, rfl, hu, hv⟩ := h
  exact ⟨us, vs, rfl, hu, hv⟩

end Spells

/-! ## What extends an expression -/

/-- Whether a lexeme behind an expression of a level extends it at this level. -/
def continues : Strength → Lexeme → Bool
  | .named, l => l == .op ":="
  | .test, l => l == .word "if"
  | .or, l => l == .word "or"
  | .and, l => l == .word "and"
  | .compare, .op s => ["==", "!=", "<", "<=", ">", ">="].contains s
  | .compare, .word w => ["in", "not", "is"].contains w
  | .power, l => l == .op "**"
  | .atom, .op s => [".", "[", "("].contains s
  | .atom, .text _ => true
  | s, .op o => ((operatorsAt s).lookup o).isSome
  | _, _ => false

/-- Whether lexemes begin a form of their own at a level, other than what the stronger levels
read. -/
def opens : Strength → List Lexeme → Bool
  | .named, _ :: l :: _ => l == .op ":="
  | .test, l :: _ => l == .word "lambda"
  | .not, l :: _ => l == .word "not"
  | .factor, l :: _ => (unaryOp? l).isSome
  | .await, l :: _ => l == .word "await"
  | _, _ => false

/-- A lexeme extends nothing at a level or at any stronger one. -/
def Ends (s : Strength) (l : Lexeme) : Prop :=
  ∀ k : Strength, s.level ≤ k.level → continues k l = false

/-- The level that a level without its operators leads to. -/
def stronger : Strength → Strength
  | .named => .test | .tuple => .test | .yield => .tuple | .test => .or | .or => .and | .and => .not
  | .not => .compare | .compare => .bitOr | .bitOr => .bitXor | .bitXor => .bitAnd
  | .bitAnd => .shift | .shift => .arith | .arith => .term | .term => .factor | .factor => .power
  | .power => .await | .await => .atom | .atom => .atom

/-- The levels on the way from an atom to an expression in brackets. -/
def climbs : Strength → Bool
  | .tuple | .yield | .atom => false
  | _ => true

/-! ## One level -/

section Levels

variable {self : Self} {ts rest : List Token} {e : Tree}

theorem binary_climbs {level next : Strength} (h : Runs (self next) ts e rest)
    (hend : ∀ o, front rest = .op o → (operatorsAt level).lookup o = none) :
    Runs (binary self level next) ts e rest := by
  refine chain_runs h (Fails.bind (take_fails ?_))
  split
  · exact hend _ ‹_›
  · rfl

theorem connected_climbs {op : BoolOp} {w : String} {operand : Parser Tree}
    (h : Runs operand ts e rest) (hend : front rest ≠ .word w) :
    Runs (connected op w operand) ts e rest :=
  (separated_runs_one h (word_fails hend)).bind .pure

theorem compareOp_fails (hend : continues .compare (front rest) = false) :
    Fails compareOp rest := by
  refine (peek_runs rest).fails ?_
  generalize front rest = l at hend
  split <;> first | cases hend | rfl

theorem comparison_climbs (h : Runs (self .bitOr) ts e rest)
    (hend : continues .compare (front rest) = false) : Runs (comparison self) ts e rest := by
  have none : Runs (many (do return (← compareOp, ← self .bitOr))) rest [] rest :=
    (Rounds.done (maybe_none (Fails.map _ (compareOp_fails hend).bind))).loop.map List.reverse
  exact h.bind (none.bind .pure)

theorem line_runs_some (ts : List Token) : ∃ l, Runs line ts l ts := by
  cases ts with
  | nil => exact ⟨0, rfl⟩
  | cons t ts => exact ⟨t.start.line, rfl⟩

theorem factor_climbs (h : Runs (self .power) ts e rest) (hstart : unaryOp? (front ts) = none) :
    Runs (factor self) ts e rest := by
  obtain ⟨l, hl⟩ := line_runs_some ts
  exact hl.bind ((maybe_none (take_fails hstart)).bind h)

theorem power_climbs (h : Runs (self .await) ts e rest) (hend : front rest ≠ .op "**") :
    Runs (power self) ts e rest :=
  h.bind ((skipSign_no hend).bind .pure)

theorem awaitExpr_climbs (h : Runs (self .atom) ts e rest) (hstart : front ts ≠ .word "await") :
    Runs (awaitExpr self) ts e rest := by
  obtain ⟨l, hl⟩ := line_runs_some ts
  exact hl.bind ((skipWord_no hstart).bind h)

theorem negation_climbs (h : Runs (self .compare) ts e rest) (hstart : front ts ≠ .word "not") :
    Runs (negation self) ts e rest :=
  (atWord_no hstart).bind h

theorem conditional_climbs (h : Runs (self .or) ts e rest) (hstart : front ts ≠ .word "lambda")
    (hend : front rest ≠ .word "if") : Runs (conditional self) ts e rest :=
  (atWord_no hstart).bind (h.bind ((skipWord_no hend).bind .pure))

theorem atNamed_no (h : second ts ≠ .op ":=") : Runs atNamed ts false ts := by
  have hs : (second ts == .op ":=") = false := beq_false_of_ne h
  exact hs ▸ (peekSecond_runs ts).bind .pure

theorem namedExpr_climbs (h : Runs (self .test) ts e rest) (hstart : second ts ≠ .op ":=")
    (hend : front rest ≠ .op ":=") : Runs (namedExpr self) ts e rest :=
  (atNamed_no hstart).bind (h.bind ((atSign_no hend).bind (require_true.bind .pure)))

end Levels

/-- The lexemes in front of some tokens. -/
def lexemes (ts : List Token) : List Lexeme := ts.map Token.lexeme

theorem eq_none_of_isSome {α : Type} {o : Option α} (h : o.isSome = false) : o = none :=
  Option.isNone_iff_eq_none.mp (Option.isSome_eq_false_iff.mp h)

theorem step_climbs {self : Self} {s : Strength} {ts rest : List Token} {e : Tree}
    (hs : climbs s = true) (h : Runs (self (stronger s)) ts e rest)
    (hstart : opens s (lexemes ts) = false) (hend : continues s (front rest) = false)
    (hts : ts ≠ []) : Runs (step self s) ts e rest := by
  obtain ⟨t, us, rfl⟩ := List.exists_cons_of_ne_nil hts
  cases s with
  | named =>
    refine namedExpr_climbs h ?_ (ne_of_beq_false hend)
    cases us with
    | nil => exact nofun
    | cons u us => exact ne_of_beq_false hstart
  | tuple | yield | atom => cases hs
  | test => exact conditional_climbs h (ne_of_beq_false hstart) (ne_of_beq_false hend)
  | or | and => exact connected_climbs h (ne_of_beq_false hend)
  | not => exact negation_climbs h (ne_of_beq_false hstart)
  | compare => exact comparison_climbs h hend
  | bitOr | bitXor | bitAnd | shift | arith | term =>
    refine binary_climbs h fun o ho => ?_
    rw [ho] at hend
    exact eq_none_of_isSome hend
  | factor => exact factor_climbs h (eq_none_of_isSome hstart)
  | power => exact power_climbs h (ne_of_beq_false hend)
  | await => exact awaitExpr_climbs h (ne_of_beq_false hstart)

/-! ## Reading at all levels -/

/-- The lexemes are read as a tree at a level, on every line and in front of all that extends
nothing there. -/
def Reads (s : Strength) (ls : List Lexeme) (t : Nat → Tree) : Prop :=
  ∀ (l n : Nat) (ts rest : List Token), Spells l ts ls → Ends s (front rest) →
    20 * ls.length ≤ n + s.level → Runs (expr n s) (ts ++ rest) (t l) rest

variable {ls : List Lexeme} {t : Nat → Tree} {s : Strength}

theorem lexemes_of_spells {l : Nat} {ts : List Token} (h : Spells l ts ls) (rest : List Token) :
    lexemes (ts ++ rest) = ls ++ lexemes rest := by
  have hl : lexemes ts = ls := by
    have := congrArg (List.map Prod.fst) h
    rw [List.map_map, List.map_map] at this
    exact this.trans (List.map_id ls)
  unfold lexemes at *
  rw [List.map_append, hl]

/-- What opens no form of its own does not do so in front of what extends nothing. -/
theorem opens_append (hls : ls ≠ []) (ho : opens s ls = false) {rest : List Token}
    (hend : continues s (front rest) = false) : opens s (ls ++ lexemes rest) = false := by
  obtain ⟨x, ls, rfl⟩ := List.exists_cons_of_ne_nil hls
  cases s with
  | named =>
    cases ls with
    | cons y ls => exact ho
    | nil =>
      cases rest with
      | nil => rfl
      | cons r rest => exact hend
  | _ => exact ho

theorem level_lt_stronger (h : climbs s = true) : s.level < (stronger s).level := by
  cases s <;> first | decide | cases h

/-- A level without its operators reads what the next stronger level reads. -/
theorem Reads.climb (s : Strength) (h : Reads (stronger s) ls t) (hls : ls ≠ [])
    (hs : climbs s = true) (ho : opens s ls = false) : Reads s ls t := by
  intro l n ts rest hts hend hn
  have hlen : 0 < ls.length := List.length_pos_iff.mpr hls
  have hlt := level_lt_stronger hs
  have hmax : s.level < 17 := by cases s <;> first | decide | cases hs
  obtain ⟨m, rfl⟩ : ∃ m, n = m + 1 := ⟨n - 1, by omega⟩
  have inner : Runs (expr m (stronger s)) (ts ++ rest) (t l) rest :=
    h l m ts rest hts (fun k hk => hend k (by omega)) (by omega)
  have here : continues s (front rest) = false := hend s (Nat.le_refl _)
  refine step_climbs hs inner ?_ here ?_
  · rw [lexemes_of_spells hts]
    exact opens_append hls ho here
  · intro hnil
    have := congrArg List.length hnil
    rw [List.length_append, hts.length, List.length_nil] at this
    omega

/-- Lexemes that open a form of their own at no level. -/
def Plain (ls : List Lexeme) : Prop := ls ≠ [] ∧ ∀ s, opens s ls = false

theorem Reads.factor_of_atom (h : Reads .atom ls t) (hp : Plain ls) : Reads .factor ls t :=
  have await : Reads .await ls t := Reads.climb .await h hp.1 rfl (hp.2 _)
  have power : Reads .power ls t := Reads.climb .power await hp.1 rfl (hp.2 _)
  Reads.climb .factor power hp.1 rfl (hp.2 _)

theorem Reads.bitXor_of_factor (h : Reads .factor ls t) (hls : ls ≠ []) : Reads .bitXor ls t :=
  have term : Reads .term ls t := Reads.climb .term h hls rfl rfl
  have arith : Reads .arith ls t := Reads.climb .arith term hls rfl rfl
  have shift : Reads .shift ls t := Reads.climb .shift arith hls rfl rfl
  have bitAnd : Reads .bitAnd ls t := Reads.climb .bitAnd shift hls rfl rfl
  Reads.climb .bitXor bitAnd hls rfl rfl

theorem Reads.bitOr_of_factor (h : Reads .factor ls t) (hls : ls ≠ []) : Reads .bitOr ls t :=
  Reads.climb .bitOr (h.bitXor_of_factor hls) hls rfl rfl

theorem Reads.test_of_bitOr (h : Reads .bitOr ls t) (hls : ls ≠ []) (hn : opens .not ls = false)
    (hl : opens .test ls = false) : Reads .test ls t :=
  have compare : Reads .compare ls t := Reads.climb .compare h hls rfl rfl
  have not : Reads .not ls t := Reads.climb .not compare hls rfl hn
  have and : Reads .and ls t := Reads.climb .and not hls rfl rfl
  have or : Reads .or ls t := Reads.climb .or and hls rfl rfl
  Reads.climb .test or hls rfl hl

theorem Reads.test_of_atom (h : Reads .atom ls t) (hp : Plain ls) : Reads .test ls t :=
  ((h.factor_of_atom hp).bitOr_of_factor hp.1).test_of_bitOr hp.1 (hp.2 _) (hp.2 _)

theorem Reads.named_of_test (h : Reads .test ls t) (hls : ls ≠ []) (ho : opens .named ls = false) :
    Reads .named ls t :=
  Reads.climb .named h hls rfl ho

end Exemplar.Syntax.Parser

namespace Exemplar.Syntax.Parser

/-! ## Atoms -/

variable {self : Self} {ts rest : List Token} {t : Token} {e : Tree}

theorem discard_runs {α : Type} {p : Parser α} {a : α} (h : Runs p ts a rest) :
    Runs (discard p) ts () rest := h.map _

theorem atom_number {c : Constant} (h : t.lexeme = .number c) :
    Runs (atom self) (t :: ts) (.mk t.start.line (.const c)) ts := by
  have hp : Runs peek (t :: ts) (.number c) (t :: ts) := h ▸ peek_runs (t :: ts)
  exact (line_runs t ts).bind (hp.bind ((discard_runs (take_runs rfl)).bind .pure))

theorem atom_bracket (h : t.lexeme = .op "[") (hb : Runs (bracket self t.start.line) ts e rest) :
    Runs (atom self) (t :: ts) e rest := by
  have hp : Runs peek (t :: ts) (.op "[") (t :: ts) := h ▸ peek_runs (t :: ts)
  exact (line_runs t ts).bind (hp.bind ((sign_runs h).bind hb))

theorem atom_brace (h : t.lexeme = .op "\x7b") (hb : Runs (brace self t.start.line) ts e rest) :
    Runs (atom self) (t :: ts) e rest := by
  have hp : Runs peek (t :: ts) (.op "\x7b") (t :: ts) := h ▸ peek_runs (t :: ts)
  exact (line_runs t ts).bind (hp.bind ((sign_runs h).bind hb))

theorem atom_parenthesis (h : t.lexeme = .op "(")
    (hb : Runs (parenthesis self t.start.line) ts e rest) : Runs (atom self) (t :: ts) e rest := by
  have hp : Runs peek (t :: ts) (.op "(") (t :: ts) := h ▸ peek_runs (t :: ts)
  exact (line_runs t ts).bind (hp.bind ((sign_runs h).bind hb))

theorem atom_word {w : String} (h : t.lexeme = .word w) (hw : Runs (wordAtom w) (t :: ts) e rest) :
    Runs (atom self) (t :: ts) e rest := by
  have hp : Runs peek (t :: ts) (.word w) (t :: ts) := h ▸ peek_runs (t :: ts)
  exact (line_runs t ts).bind (hp.bind hw)

theorem wordAtom_name {w : String} (h : t.lexeme = .word w) (hw : w ∉ keywords) :
    Runs (wordAtom w) (t :: ts) (.mk t.start.line (.name w)) ts := by
  refine (line_runs t ts).bind (Runs.bind (a := .name w) ?_ .pure)
  split
  · exact absurd (by decide) hw
  · exact absurd (by decide) hw
  · exact absurd (by decide) hw
  · exact (name_runs h hw).map _

/-- The words that are constants. -/
def wordConstant? : String → Option Constant
  | "None" => some .none
  | "True" => some (.bool true)
  | "False" => some (.bool false)
  | _ => none

theorem wordAtom_constant {w : String} {c : Constant} (h : t.lexeme = .word w)
    (hw : wordConstant? w = some c) :
    Runs (wordAtom w) (t :: ts) (.mk t.start.line (.const c)) ts := by
  refine (line_runs t ts).bind (Runs.bind (a := .const c) ?_ .pure)
  unfold wordConstant? at hw
  split at hw <;> cases hw <;> exact (word_runs h).bind .pure

theorem quotation_runs {q : Quotation} (h : t.lexeme = .text q) :
    Runs quotation (t :: ts) (t.start.line, q) ts :=
  (line_runs t ts).bind ((take_runs (by rw [h])).bind .pure)

theorem quotation_fails (h : ∀ q, front ts ≠ .text q) : Fails quotation ts := by
  obtain ⟨l, hl⟩ := line_runs_some ts
  refine hl.fails (Fails.bind (take_fails ?_))
  split
  · exact absurd ‹_› (h _)
  · rfl

theorem concatenate_plain (parse : Nat → List Char → Option Tree) (l : Nat) {body cs : List Char}
    (h : unescape body = .ok cs) :
    concatenate parse [(l, { body := body })] =
      some (.mk l (.const (.str (String.ofList cs)))) := by
  have hp : ∀ p, Quotation.pieces l false p { body := body } = some [.text cs] := by
    intro p
    simp only [Quotation.pieces, textOf, h]
    rfl
  simp [concatenate, hp, plainText]

theorem texts_runs {body cs : List Char} (h : t.lexeme = .text { body := body })
    (hcs : unescape body = .ok cs) (hend : ∀ q, front ts ≠ .text q) :
    Runs (texts self) (t :: ts) (.mk t.start.line (.const (.str (String.ofList cs)))) ts := by
  have none : Runs (many quotation) ts [] ts :=
    (Rounds.done (maybe_none (Fails.map _ (quotation_fails hend)))).loop.map List.reverse
  refine (quotation_runs h).bind (none.bind ?_)
  unfold Runs ofOption
  rw [concatenate_plain _ _ hcs]
  rfl


theorem trailer_fails (h : continues .atom (front rest) = false) : Fails (trailer self e) rest := by
  obtain ⟨l, hl⟩ := line_runs_some rest
  refine hl.fails ((peek_runs rest).fails ?_)
  generalize front rest = x at h
  split <;> first | cases h | rfl

section Atoms

variable {ls : List Lexeme} {u : Nat → Tree}

/-- What an atom reads is read as an atom unless something extends it. -/
theorem Reads.of_atom (hls : ls ≠ []) (h : ∀ (l n : Nat) (ts rest : List Token), Spells l ts ls →
    Ends .atom (front rest) → 20 * ls.length ≤ n + 18 →
      Runs (atom (expr n)) (ts ++ rest) (u l) rest) :
    Reads .atom ls u := by
  intro l n ts rest hts hend hn
  have hlen : 0 < ls.length := List.length_pos_iff.mpr hls
  have hn : 20 * ls.length ≤ n + 17 := hn
  obtain ⟨m, rfl⟩ : ∃ m, n = m + 1 := ⟨n - 1, by omega⟩
  exact chain_runs (h l m ts rest hts hend (by omega)) (trailer_fails (hend .atom (Nat.le_refl _)))

/-- An atom of one lexeme. -/
theorem Reads.of_lexeme {x : Lexeme} {f : Form}
    (h : ∀ (self : Self) (t : Token) (ts : List Token), t.lexeme = x → Ends .atom (front ts) →
      Runs (atom self) (t :: ts) (.mk t.start.line f) ts) :
    Reads .atom [x] (.mk · f) := by
  refine .of_atom (List.cons_ne_nil _ _) fun l n ts rest hts hend _ => ?_
  obtain ⟨t, us, rfl, hx, rfl, hus⟩ := hts.of_cons
  obtain rfl := List.length_eq_zero_iff.mp hus.length
  exact h (expr n) t rest hx hend

theorem reads_number (c : Constant) : Reads .atom [.number c] (.mk · (.const c)) :=
  .of_lexeme fun _ _ _ hx _ => atom_number hx

theorem reads_constant {w : String} {c : Constant} (hw : wordConstant? w = some c) :
    Reads .atom [.word w] (.mk · (.const c)) :=
  .of_lexeme fun _ _ _ hx _ => atom_word hx (wordAtom_constant hx hw)

theorem reads_text {body cs : List Char} (h : unescape body = .ok cs) :
    Reads .atom [.text { body := body }] (.mk · (.const (.str (String.ofList cs)))) := by
  refine .of_lexeme fun self t ts hx hend => ?_
  have hp : Runs peek (t :: ts) (.text { body := body }) (t :: ts) := hx ▸ peek_runs (t :: ts)
  refine (line_runs t ts).bind (hp.bind (texts_runs hx h fun q hq => ?_))
  have := hend .atom (Nat.le_refl _)
  rw [hq] at this
  cases this

/-- A minus sign in front of an atom. -/
theorem reads_negative {x : Lexeme} {f : Form} (h : Reads .atom [x] (.mk · f)) (hp : Plain [x]) :
    Reads .factor [.op "-", x] (fun l => .mk l (.unary .minus (.mk l f))) := by
  intro l n ts rest hts hend hn
  obtain ⟨t, us, rfl, hx, rfl, hus⟩ := hts.of_cons
  have hn : 40 ≤ n + 14 := hn
  obtain ⟨m, rfl⟩ : ∃ m, n = m + 1 := ⟨n - 1, by omega⟩
  have inner : Runs (expr m .factor) (us ++ rest) (.mk t.start.line f) rest :=
    h.factor_of_atom hp _ m us rest hus hend (by show 20 ≤ m + 14; omega)
  have minus : Runs (take unaryOp?) (t :: us ++ rest) .minus (us ++ rest) :=
    take_runs (by rw [hx]; rfl)
  exact (line_runs t (us ++ rest)).bind ((maybe_some minus).bind (inner.bind .pure))

end Atoms

end Exemplar.Syntax.Parser
