import Exemplar.Syntax.Parser.Basic

/-
  Runs of parsers. `Runs p ts a rest` says that `p` reads `a` from the front of the tokens and
  leaves the rest. The run of a composed parser is composed of runs (`Runs.bind`), so that a proof
  about a rule of the grammar goes through the rule line by line; which way a rule takes is decided
  by the lexeme in front (`front`).
-/

namespace Exemplar.Syntax.Parser

variable {α β : Type}

/-- The parser reads a value from the front of some tokens and leaves the rest. -/
def Runs (p : Parser α) (ts : List Token) (a : α) (rest : List Token) : Prop :=
  p ts = some (a, rest)

/-- The parser reads nothing from some tokens. -/
def Fails (p : Parser α) (ts : List Token) : Prop := p ts = none

/-- The lexeme in front of some tokens. -/
def front : List Token → Lexeme
  | [] => .stop
  | t :: _ => t.lexeme

/-- The lexeme behind the one in front. -/
def second : List Token → Lexeme
  | _ :: t :: _ => t.lexeme
  | _ => .stop

variable {p : Parser α} {ts rest : List Token} {a : α}

theorem Runs.pure : Runs (Pure.pure a) ts a ts := rfl

theorem Runs.bind {f : α → Parser β} {r s : List Token} {b : β} (hp : Runs p ts a r)
    (hf : Runs (f a) r b s) : Runs (p >>= f) ts b s := by
  show (p ts).bind (fun r => f r.1 r.2) = some (b, s)
  rw [hp]
  exact hf

theorem Runs.map (f : α → β) (hp : Runs p ts a rest) : Runs (f <$> p) ts (f a) rest := by
  show (p ts).bind (fun r => some (f r.1, r.2)) = some (f a, rest)
  rw [hp]
  rfl

theorem Fails.map (f : α → β) (hp : Fails p ts) : Fails (f <$> p) ts := by
  show (p ts).bind (fun r => some (f r.1, r.2)) = none
  rw [hp]
  rfl

theorem Fails.bind {f : α → Parser β} (hp : Fails p ts) : Fails (p >>= f) ts := by
  show (p ts).bind (fun r => f r.1 r.2) = none
  rw [hp]
  rfl

theorem Runs.fails {f : α → Parser β} {r : List Token} (hp : Runs p ts a r) (hf : Fails (f a) r) :
    Fails (p >>= f) ts := by
  show (p ts).bind (fun r => f r.1 r.2) = none
  rw [hp]
  exact hf

/-! ## One token -/

theorem peek_runs (ts : List Token) : Runs peek ts (front ts) ts := by
  cases ts <;> rfl

theorem peekSecond_runs (ts : List Token) : Runs peekSecond ts (second ts) ts := by
  rcases ts with _ | ⟨_, _ | ⟨_, _⟩⟩ <;> rfl

theorem line_runs (t : Token) (ts : List Token) : Runs line (t :: ts) t.start.line (t :: ts) := rfl

theorem take_runs {f : Lexeme → Option α} {t : Token} (h : f t.lexeme = some a) :
    Runs (take f) (t :: ts) a ts := by
  show (f t.lexeme).map (fun a => (a, ts)) = some (a, ts)
  rw [h]
  rfl

theorem take_fails {f : Lexeme → Option α} (h : f (front ts) = none) : Fails (take f) ts := by
  cases ts with
  | nil => rfl
  | cons t ts =>
    show (f t.lexeme).map (fun a => (a, ts)) = none
    rw [show f t.lexeme = none from h]
    rfl

theorem sign_runs {s : String} {t : Token} (h : t.lexeme = .op s) : Runs (sign s) (t :: ts) () ts :=
  take_runs (by rw [h]; exact if_pos (beq_self_eq_true s))

theorem sign_fails {s : String} (h : front ts ≠ .op s) : Fails (sign s) ts := by
  refine take_fails ?_
  split
  · rename_i o ho
    exact if_neg fun hs => h (by rw [ho, eq_of_beq hs])
  · rfl

theorem word_runs {w : String} {t : Token} (h : t.lexeme = .word w) :
    Runs (word w) (t :: ts) () ts :=
  take_runs (by rw [h]; exact if_pos (beq_self_eq_true w))

theorem word_fails {w : String} (h : front ts ≠ .word w) : Fails (word w) ts := by
  refine take_fails ?_
  split
  · rename_i o ho
    exact if_neg fun hs => h (by rw [ho, eq_of_beq hs])
  · rfl

theorem name_runs {n : String} {t : Token} (h : t.lexeme = .word n) (hn : n ∉ keywords) :
    Runs name (t :: ts) n ts :=
  take_runs (by rw [h]; exact if_neg (by simpa using hn))

theorem atSign_no {s : String} (h : front ts ≠ .op s) : Runs (atSign s) ts false ts := by
  have hs : (front ts == .op s) = false := beq_false_of_ne h
  exact hs ▸ (peek_runs ts).bind .pure

theorem atWord_no {w : String} (h : front ts ≠ .word w) : Runs (atWord w) ts false ts := by
  have hw : (front ts == .word w) = false := beq_false_of_ne h
  exact hw ▸ (peek_runs ts).bind .pure

/-! ## Choices -/

theorem orElse_runs {q : Parser α} (hp : Runs p ts a rest) : Runs (p <|> q) ts a rest := by
  show (p ts).orElse (fun _ => q ts) = some (a, rest)
  rw [hp]
  rfl

theorem orElse_runs_right {q : Parser α} (hp : Fails p ts) (hq : Runs q ts a rest) :
    Runs (p <|> q) ts a rest := by
  show (p ts).orElse (fun _ => q ts) = some (a, rest)
  rw [hp]
  exact hq

theorem maybe_some (hp : Runs p ts a rest) : Runs (maybe p) ts (some a) rest :=
  orElse_runs (hp.map some)

theorem maybe_none (hp : Fails p ts) : Runs (maybe p) ts none ts :=
  orElse_runs_right (hp.map some) .pure

theorem skipSign_yes {s : String} {t : Token} (h : t.lexeme = .op s) :
    Runs (skipSign s) (t :: ts) true ts :=
  orElse_runs ((sign_runs h).bind .pure)

theorem skipSign_no {s : String} (h : front ts ≠ .op s) : Runs (skipSign s) ts false ts :=
  orElse_runs_right (sign_fails h).bind .pure

theorem skipWord_no {w : String} (h : front ts ≠ .word w) : Runs (skipWord w) ts false ts :=
  orElse_runs_right (word_fails h).bind .pure

theorem require_true : Runs (require true) ts () ts := rfl

/-! ## Loops -/

/-- The rounds of a loop: each takes a token, and after the last the step answers nothing. -/
inductive Rounds (step : α → Parser (Option α)) : List Token → α → α → List Token → Prop
  | done {ts : List Token} {a : α} (h : Runs (step a) ts none ts) : Rounds step ts a a ts
  | more {ts r rest : List Token} {a b c : α} (h : Runs (step a) ts (some b) r)
      (hlt : r.length < ts.length) (hr : Rounds step r b c rest) : Rounds step ts a c rest

variable {step : α → Parser (Option α)} {b : α}

theorem Rounds.repeats (h : Rounds step ts a b rest) :
    ∀ n, ts.length ≤ n → Runs (repeatUpTo step n a) ts b rest := by
  induction h with
  | @done ts a h =>
    intro n _
    cases n with
    | zero => exact .pure
    | succ n => exact h.bind .pure
  | more h hlt _ ih =>
    intro n hn
    cases n with
    | zero => omega
    | succ n => exact h.bind (ih n (by omega))

theorem Rounds.loop (h : Rounds step ts a b rest) : Runs (loop step a) ts b rest := by
  cases h with
  | done h => exact h.bind .pure
  | more h _ hr => exact h.bind (hr.repeats _ (Nat.le_refl _))

/-- A loop whose step fails at once. -/
theorem chain_runs {first : Parser α} {step : α → Parser α} (hf : Runs first ts a rest)
    (hs : Fails (step a) rest) : Runs (chain first step) ts a rest :=
  hf.bind (Rounds.done (maybe_none hs)).loop

/-- A loop with one round. -/
theorem chain_runs_once {first : Parser α} {step : α → Parser α} {r : List Token}
    (hf : Runs first ts a r) (hs : Runs (step a) r b rest) (hlt : rest.length < r.length)
    (hb : Fails (step b) rest) : Runs (chain first step) ts b rest :=
  hf.bind (Rounds.more (maybe_some hs) hlt (.done (maybe_none hb))).loop

/-- What follows the first item of a separated list: a separator and an item, again and again. -/
inductive Following (sep : Parser Unit) (p : Parser α) : List Token → List α → List Token → Prop
  | none {ts : List Token} (h : Fails sep ts) : Following sep p ts [] ts
  | some {ts r s rest : List Token} {a : α} {as : List α} (hsep : Runs sep ts () r)
      (hp : Runs p r a s) (hlt : s.length < ts.length) (hr : Following sep p s as rest) :
      Following sep p ts (a :: as) rest

variable {sep : Parser Unit} {as : List α}

theorem Following.rounds (h : Following sep p ts as rest) : ∀ done : List α,
    Rounds (fun done => maybe do sep; return (← p) :: done) ts done (as.reverse ++ done) rest := by
  induction h with
  | none h => exact fun done => .done (maybe_none h.bind)
  | @some ts r s rest a as hsep hp hlt _ ih =>
    intro done
    have next := ih (a :: done)
    rw [List.append_cons, ← List.reverse_cons] at next
    exact .more (maybe_some (hsep.bind (hp.bind .pure))) hlt next

theorem separated_runs {r : List Token} (hp : Runs p ts a r) (h : Following sep p r as rest) :
    Runs (separated sep p) ts (a :: as) rest := by
  have all := (h.rounds [a]).loop.map List.reverse
  rw [List.reverse_append, List.reverse_reverse] at all
  exact hp.bind all

/-- One item without a separator behind it. -/
theorem separated_runs_one (hp : Runs p ts a rest) (h : Fails sep rest) :
    Runs (separated sep p) ts [a] rest :=
  separated_runs hp (.none h)

theorem commaList_runs {r : List Token} (hp : Runs p ts a r) (h : Following (sign ",") p r as rest)
    (hend : front rest ≠ .op ",") : Runs (commaList p) ts (a :: as, false) rest :=
  (separated_runs hp h).bind ((skipSign_no hend).bind .pure)

end Exemplar.Syntax.Parser
