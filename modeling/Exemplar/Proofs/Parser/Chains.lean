import Exemplar.Proofs.Parser.Brackets

/-
  Chains of operands. The parser reads what groups from the left in a loop, so that a text is no
  longer one operand to a rule once more follows it. `Chained` is a run of such a loop that has not
  come to its end: it goes on by one step more (`Chained.more`) or is at its end where no step
  follows (`Chained.runs`). Names with attributes and indexes (`Heads`) and unions (`Unites`) are
  put together from this, one link at a time.
-/

namespace Exemplar.Syntax.Parser

section

variable {α : Type} {first : Parser α} {step : α → Parser α} {ts r rest : List Token} {a b : α}

/-- Steps one after another, each of which takes a token. -/
inductive Steps (step : α → Parser α) : List Token → α → α → List Token → Prop
  | none {ts : List Token} {a : α} : Steps step ts a a ts
  | more {ts r rest : List Token} {a b c : α} (h : Steps step ts a b r)
      (hs : Runs (step b) r c rest) (hlt : rest.length < r.length) : Steps step ts a c rest

/-- A chain that has come so far. -/
def Chained (first : Parser α) (step : α → Parser α) (ts : List Token) (a : α)
    (rest : List Token) : Prop :=
  ∃ b r, Runs first ts b r ∧ Steps step r b a rest

theorem Chained.one (h : Runs first ts a rest) : Chained first step ts a rest :=
  ⟨a, rest, h, .none⟩

theorem Chained.more (h : Chained first step ts a r) (hs : Runs (step a) r b rest)
    (hlt : rest.length < r.length) : Chained first step ts b rest := by
  obtain ⟨c, s, hf, hsteps⟩ := h
  exact ⟨c, s, hf, .more hsteps hs hlt⟩

/-- Steps in front of the rounds of a loop are rounds of it. -/
theorem Steps.rounds {c : α} (h : Steps step ts a b r)
    (hr : Rounds (fun a => maybe (step a)) r b c rest) :
    Rounds (fun a => maybe (step a)) ts a c rest := by
  induction h with
  | none => exact hr
  | more _ hs hlt ih => exact ih (.more (maybe_some hs) hlt hr)

theorem Chained.runs (h : Chained first step ts a rest) (hend : Fails (step a) rest) :
    Runs (chain first step) ts a rest := by
  obtain ⟨b, r, hf, hsteps⟩ := h
  exact hf.bind (hsteps.rounds (.done (maybe_none hend))).loop

end

variable {ls ms : List Lexeme} {t u : Nat → Tree}

/-! ## Names, attributes and indexes -/

/-- The lexemes, on every line and whatever follows them, are read as a tree that attributes and
indexes can extend. -/
def Heads (ls : List Lexeme) (t : Nat → Tree) : Prop :=
  ∀ (l n : Nat) (ts rest : List Token), Spells l ts ls → 20 * ls.length ≤ n + 18 →
    Chained (atom (expr n)) (trailer (expr n)) (ts ++ rest) (t l) rest

theorem Heads.reads (h : Heads ls t) (hls : ls ≠ []) : Reads .atom ls t := by
  intro l n ts rest hts hend hn
  have hlen : 0 < ls.length := List.length_pos_iff.mpr hls
  have hn : 20 * ls.length ≤ n + 17 := hn
  obtain ⟨m, rfl⟩ : ∃ m, n = m + 1 := ⟨n - 1, by omega⟩
  exact (h l m ts rest hts (by omega)).runs (trailer_fails (hend .atom (Nat.le_refl _)))

/-- One lexeme that is an atom whatever follows it. -/
theorem heads_lexeme {x : Lexeme} {f : Form}
    (h : ∀ (self : Self) (t : Token) (ts : List Token), t.lexeme = x →
      Runs (atom self) (t :: ts) (.mk t.start.line f) ts) : Heads [x] (.mk · f) := by
  intro l n ts rest hts _
  obtain ⟨t, us, rfl, hx, rfl, hus⟩ := hts.of_cons
  obtain rfl := List.length_eq_zero_iff.mp hus.length
  exact .one (h (expr n) t rest hx)

theorem heads_name {w : String} (hw : w ∉ keywords) : Heads [.word w] (.mk · (.name w)) :=
  heads_lexeme fun _ _ _ hx => atom_word hx (wordAtom_name hx hw)

theorem heads_constant {w : String} {c : Constant} (hw : wordConstant? w = some c) :
    Heads [.word w] (.mk · (.const c)) :=
  heads_lexeme fun _ _ _ hx => atom_word hx (wordAtom_constant hx hw)

theorem heads_ellipsis : Heads [.op "..."] (.mk · (.const .ellipsis)) := by
  refine heads_lexeme fun self t ts hx => ?_
  have hp : Runs peek (t :: ts) (.op "...") (t :: ts) := hx ▸ peek_runs (t :: ts)
  exact (line_runs t ts).bind (hp.bind ((sign_runs hx).bind .pure))

theorem Heads.attribute {w : String} (h : Heads ls t) (hw : w ∉ keywords) :
    Heads (ls ++ [.op ".", .word w]) (fun l => .mk (t l).line (.attribute (t l) w)) := by
  intro l n ts rest hts hn
  obtain ⟨us, vs, rfl, hus, hvs⟩ := hts.of_append
  obtain ⟨d, vs, rfl, hd, -, hvs⟩ := hvs.of_cons
  obtain ⟨m, vs, rfl, hm, -, hvs⟩ := hvs.of_cons
  obtain rfl := List.length_eq_zero_iff.mp hvs.length
  simp only [List.length_append, List.length_cons] at hn
  rw [List.append_assoc]
  have hp : Runs peek (d :: m :: rest) (.op ".") (d :: m :: rest) := hd ▸ peek_runs _
  refine (h l n us (d :: m :: rest) hus (by omega)).more ?_ (by simp only [List.length_cons]; omega)
  exact (line_runs d (m :: rest)).bind
    (hp.bind ((sign_runs hd).bind ((name_runs hm hw).bind .pure)))

/-! ## Brackets -/

variable {l n : Nat} {ts rest : List Token} {items : List (List Lexeme)} {us : List (Nat → Tree)}

/-- One item in parentheses stands for itself. -/
theorem parenthesis_group {c : Token} (hc : c.lexeme = .op ")") (h : Item ls t)
    (hts : Spells l ts ls) (hn : 20 * ls.length ≤ n) {k : Nat} :
    Runs (parenthesis (expr n) k) (ts ++ c :: rest) (t l) rest := by
  have hend : front (c :: rest) = .op ")" := hc
  refine (skipSign_no (h.front_ne hts (by decide))).bind
    ((atWord_no (h.front_ne hts (by decide))).bind
      ((atSign_no (h.front_ne hts (by decide))).bind ?_))
  refine (h.starOr_runs hts hend (by decide) hn).bind ((atClause_no hend).bind ?_)
  exact (skipSign_yes hc).bind (require_true.bind .pure)

theorem heads_bracket {x y : Lexeme} {ls : List Lexeme} {u : Nat → Tree}
    (h : ∀ (n : Nat) (t c : Token) (ts rest : List Token), t.lexeme = x → c.lexeme = y →
      Spells t.start.line ts ls → 20 * ls.length ≤ n →
        Runs (atom (expr n)) (t :: ts ++ c :: rest) (u t.start.line) rest) :
    Heads (x :: ls ++ [y]) u := by
  intro l n ts rest hts hn
  obtain ⟨t, vs, c, rfl, ht, rfl, hvs, hc⟩ := spells_bracket hts
  simp only [List.length_cons, List.length_append] at hn
  rw [List.append_assoc]
  exact .one (h n t c vs rest ht hc hvs (by omega))

theorem heads_group (h : Item ls t) : Heads (.op "(" :: ls ++ [.op ")"]) t :=
  heads_bracket fun _ _ _ _ _ ht hc hts hn => atom_parenthesis ht (parenthesis_group hc h hts hn)

theorem heads_list (h : List.Forall₂ Item items us) :
    Heads (.op "[" :: separatedBy items ++ [.op "]"]) (fun l => .mk l (.list (us.map (· l)))) :=
  heads_bracket fun _ _ _ _ _ ht hc hts hn => atom_bracket ht (bracket_runs hc h hts hn)

/-! ## Indexes -/

/-- An item of an index: no slice begins with it, and it spreads nothing. -/
structure IndexItem (ls : List Lexeme) (t : Nat → Tree) : Prop where
  item : Item ls t
  noSlice : ls.head? ≠ some (.op ":")
  notStarred : ∀ l, isStarred (t l) = false

theorem sliceItem_runs {s : String} (h : IndexItem ls t) (hts : Spells l ts ls)
    (hend : front rest = .op s) (hs : s ∈ [",", "]"]) (hn : 20 * ls.length ≤ n) :
    Runs (sliceItem (expr n)) (ts ++ rest) (t l) rest := by
  have hs' : s ∈ separators := (by decide : ∀ s ∈ [",", "]"], s ∈ separators) s hs
  have hcolon : front (ts ++ rest) ≠ .op ":" := by
    obtain ⟨x, ms, rfl⟩ := h.item.exists_cons
    obtain ⟨t, us, rfl, hx, -, -⟩ := hts.of_cons
    exact fun hf => h.noSlice (congrArg some (hx.symm.trans hf))
  have hcolon' : front rest ≠ .op ":" := by
    rw [hend]
    rintro ⟨⟩
    exact absurd hs (by decide)
  obtain ⟨k, hk⟩ := line_runs_some (ts ++ rest)
  refine (atSign_no (h.item.front_ne hts (by decide))).bind
    ((atNamed_item h.item hts hend hs').bind (hk.bind ((atSign_no hcolon).bind ?_)))
  exact ((h.item.test_runs hts hend hs' hn).map some).bind ((skipSign_no hcolon').bind .pure)

/-- A level without its operators reads nothing where the next stronger level does not. -/
theorem step_fails {self : Self} {s : Strength} (hs : climbs s = true)
    (h : Fails (self (stronger s)) ts) (hstart : opens s (lexemes ts) = false) (hts : ts ≠ []) :
    Fails (step self s) ts := by
  obtain ⟨t, us, rfl⟩ := List.exists_cons_of_ne_nil hts
  obtain ⟨l, hl⟩ := line_runs_some (t :: us)
  cases s with
  | named =>
    refine (atNamed_no ?_).fails h.bind
    cases us with
    | nil => exact nofun
    | cons u us => exact ne_of_beq_false hstart
  | tuple | yield | atom => cases hs
  | test =>
    have hlambda : front (t :: us) ≠ .word "lambda" := ne_of_beq_false hstart
    exact (atWord_no hlambda).fails h.bind
  | or | and => exact Fails.bind (Fails.bind h)
  | not =>
    have hnot : front (t :: us) ≠ .word "not" := ne_of_beq_false hstart
    exact (atWord_no hnot).fails h
  | compare => exact Fails.bind h
  | bitOr | bitXor | bitAnd | shift | arith | term => exact Fails.bind h
  | factor =>
    have hunary : unaryOp? (front (t :: us)) = none := eq_none_of_isSome hstart
    exact hl.fails ((maybe_none (take_fails hunary)).fails h)
  | power => exact Fails.bind h
  | await =>
    have hawait : front (t :: us) ≠ .word "await" := ne_of_beq_false hstart
    exact hl.fails ((skipWord_no hawait).fails h)

/-- Nothing is read in front of a closing bracket. -/
theorem expr_fails {c : Token} (hc : c.lexeme = .op "]") (n : Nat) :
    ∀ s, climbs s = true ∧ s ≠ .named ∨ s = .atom → Fails (expr n s) (c :: rest) := by
  induction n with
  | zero => exact fun _ _ => rfl
  | succ n ih =>
    rintro s (⟨hs, hnamed⟩ | rfl)
    · refine step_fails hs (ih _ ?_) ?_ (List.cons_ne_nil _ _)
      · cases s <;>
          first | exact .inl (by decide) | exact .inr rfl | exact absurd rfl hnamed | cases hs
      · show opens s (c.lexeme :: lexemes rest) = false
        rw [hc]
        cases s <;> first | rfl | exact absurd rfl hnamed
    · have hp : Runs peek (c :: rest) (.op "]") (c :: rest) := hc ▸ peek_runs (c :: rest)
      exact Fails.bind ((line_runs c rest).fails (hp.fails rfl))

theorem sliceItem_fails {c : Token} (hc : c.lexeme = .op "]") :
    Fails (sliceItem (expr n)) (c :: rest) := by
  have hf : ∀ s, s ≠ "]" → front (c :: rest) ≠ .op s := fun s hs h =>
    hs (Lexeme.op.inj (h.symm.trans hc))
  have hname : Fails name (c :: rest) := take_fails (by simp only [front, hc])
  refine (atSign_no (hf _ (by decide))).fails ?_
  by_cases hsecond : second (c :: rest) = .op ":="
  · have hnamed : Runs atNamed (c :: rest) true (c :: rest) :=
      (peekSecond_runs _).bind (by rw [hsecond]; exact .pure)
    refine hnamed.fails ?_
    cases n with
    | zero => rfl
    | succ n => exact hnamed.fails ((line_runs c rest).fails (Fails.bind (Fails.bind hname)))
  · refine (atNamed_no hsecond).fails
      ((line_runs c rest).fails ((atSign_no (hf _ (by decide))).fails ?_))
    exact Fails.bind (Fails.map some (expr_fails hc n .test (.inl (by decide))))

/-- The lexemes are read between the brackets of an index as a tree. -/
def Indexes (ls : List Lexeme) (t : Nat → Tree) : Prop :=
  ∀ (l n : Nat) (ts rest : List Token) (c : Token), c.lexeme = .op "]" → Spells l ts ls →
    20 * ls.length ≤ n → Runs (index (expr n)) (ts ++ c :: rest) (t l) (c :: rest)

theorem IndexItem.indexes (h : IndexItem ls t) : Indexes ls t := by
  intro l n ts rest c hc hts hn
  have hend : front (c :: rest) = .op "]" := hc
  have list : Runs (commaList (sliceItem (expr n))) (ts ++ c :: rest) ([t l], false) (c :: rest) :=
    commaList_runs (sliceItem_runs h hts hend (by decide) hn)
      (.none (sign_fails (by rw [hend]; decide))) (by rw [hend]; decide)
  refine list.bind ?_
  show Runs (pure (if isStarred (t l) then _ else t l)) _ _ _
  rw [h.notStarred l]
  exact .pure

/-- One item with a comma behind it is a tuple. -/
theorem IndexItem.indexes_tuple (h : IndexItem ls t) :
    Indexes (ls ++ [.op ","]) (fun l => .mk (t l).line (.tuple [t l])) := by
  intro l n ts rest c hc hts hn
  obtain ⟨vs, ws, rfl, hvs, hws⟩ := hts.of_append
  obtain ⟨d, ws, rfl, hd, -, hws⟩ := hws.of_cons
  obtain rfl := List.length_eq_zero_iff.mp hws.length
  rw [List.length_append] at hn
  have first : Runs (sliceItem (expr n)) (vs ++ d :: c :: rest) (t l) (d :: c :: rest) :=
    sliceItem_runs h hvs hd (by decide) (by omega)
  have items : Runs (separated (sign ",") (sliceItem (expr n))) (vs ++ d :: c :: rest) [t l]
      (d :: c :: rest) :=
    first.bind ((Rounds.done (maybe_none ((sign_runs hd).fails
      (sliceItem_fails hc).bind))).loop.map List.reverse)
  have list : Runs (commaList (sliceItem (expr n))) (vs ++ d :: c :: rest) ([t l], true)
      (c :: rest) := items.bind ((skipSign_yes hd).bind .pure)
  rw [List.append_assoc]
  exact list.bind .pure

/-- Several items are a tuple. -/
theorem indexes_tuple (h : List.Forall₂ IndexItem items us) (hne : items ≠ []) :
    ∃ k : Nat → Nat, Indexes (tupled items) (fun l => .mk (k l) (.tuple (us.map (· l)))) := by
  cases h with
  | nil => exact absurd rfl hne
  | @cons x u items us hx h =>
    cases h with
    | nil => exact ⟨fun l => (u l).line, hx.indexes_tuple⟩
    | @cons y v items us hy h =>
      refine ⟨fun l => (u l).line, fun l n ts rest c hc hts hn => ?_⟩
      have hend : front (c :: rest) = .op "]" := hc
      have list := stretches_run (n := n) (by decide : "," ∈ [",", "]"]) sliceItem_runs hend
        (by decide) (by decide) (.cons hx (.cons hy h)) hts hn
      exact list.bind .pure

theorem Heads.subscript (h : Heads ls t) (hi : Indexes ms u) :
    Heads (ls ++ (.op "[" :: ms ++ [.op "]"]))
      (fun l => .mk (t l).line (.subscript (t l) (u l))) := by
  intro l n ts rest hts hn
  obtain ⟨us, vs, rfl, hus, hvs⟩ := hts.of_append
  obtain ⟨o, ws, c, rfl, ho, -, hws, hc⟩ := spells_bracket hvs
  simp only [List.length_append, List.length_cons] at hn
  have peeked : Runs peek (o :: (ws ++ c :: rest)) (.op "[") (o :: (ws ++ c :: rest)) :=
    ho ▸ peek_runs _
  rw [List.append_assoc, List.append_assoc]
  refine (h l n us (o :: (ws ++ c :: rest)) hus (by omega)).more ?_
    (by simp only [List.length_cons, List.length_append]; omega)
  exact (line_runs o (ws ++ c :: rest)).bind (peeked.bind ((sign_runs ho).bind
    ((hi l n ws rest c hc hws (by omega)).bind ((sign_runs hc).bind .pure))))

/-! ## Unions -/

/-- The lexemes, on every line and in front of what extends no operand, are read as a tree that
more operands can follow. -/
def Unites (ls : List Lexeme) (t : Nat → Tree) : Prop :=
  ∀ (l n : Nat) (ts rest : List Token), Spells l ts ls → Ends .bitXor (front rest) →
    20 * ls.length ≤ n + 9 → Chained (expr n .bitXor) (fun left => do
      let op ← operator (operatorsAt .bitOr)
      return .mk left.line (.binary left op (← expr n .bitXor))) (ts ++ rest) (t l) rest

theorem Reads.unites (h : Reads .bitXor ls t) : Unites ls t :=
  fun l n ts rest hts hend hn => .one (h l n ts rest hts hend hn)

theorem Unites.union (h : Unites ls t) (h' : Reads .bitXor ms u) :
    Unites (ls ++ .op "|" :: ms) (fun l => .mk (t l).line (.binary (t l) .bitOr (u l))) := by
  intro l n ts rest hts hend hn
  obtain ⟨us, vs, rfl, hus, hvs⟩ := hts.of_append
  obtain ⟨o, vs, rfl, ho, -, hvs⟩ := hvs.of_cons
  simp only [List.length_append, List.length_cons] at hn
  have bar : Ends .bitXor (front (o :: (vs ++ rest))) := by
    show Ends .bitXor o.lexeme
    rw [ho]
    intro k hk
    cases k <;> first | rfl | exact absurd hk (by decide)
  have operated : Runs (operator (operatorsAt .bitOr)) (o :: (vs ++ rest)) .bitOr (vs ++ rest) :=
    take_runs (by rw [ho]; rfl)
  rw [List.append_assoc]
  refine (h l n us (o :: (vs ++ rest)) hus bar (by omega)).more ?_
    (by simp only [List.length_cons, List.length_append]; omega)
  exact operated.bind ((h' l n vs rest hvs hend (by omega)).bind .pure)

theorem Unites.reads (h : Unites ls t) (hls : ls ≠ []) : Reads .bitOr ls t := by
  intro l n ts rest hts hend hn
  have hlen : 0 < ls.length := List.length_pos_iff.mpr hls
  have hn : 20 * ls.length ≤ n + 8 := hn
  obtain ⟨m, rfl⟩ : ∃ m, n = m + 1 := ⟨n - 1, by omega⟩
  refine (h l m ts rest hts (fun k hk => hend k (Nat.le_trans (by decide) hk)) (by omega)).runs ?_
  refine Fails.bind (take_fails ?_)
  split
  · rename_i o ho
    have := hend .bitOr (Nat.le_refl _)
    rw [ho] at this
    exact eq_none_of_isSome this
  · rfl

end Exemplar.Syntax.Parser
