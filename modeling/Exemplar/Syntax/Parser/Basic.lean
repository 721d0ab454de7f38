import Exemplar.Syntax.Token

/-
  Parsers over tokens: each takes tokens from the front or fails, and a failure takes none. A loop
  takes a token in every round, so that the count of tokens bounds its rounds.
-/

namespace Exemplar.Syntax

abbrev Parser := StateT (List Token) Option

namespace Parser

/-- The next lexeme; after the last token all is at its end. -/
def peek : Parser Lexeme := fun ts =>
  match ts with
  | t :: _ => some (t.lexeme, ts)
  | [] => some (.stop, ts)

/-- The lexeme after the next. -/
def peekSecond : Parser Lexeme := fun ts =>
  match ts with
  | _ :: t :: _ => some (t.lexeme, ts)
  | _ => some (.stop, ts)

/-- The line of the next token. -/
def line : Parser Nat := fun ts =>
  match ts with
  | t :: _ => some (t.start.line, ts)
  | [] => some (0, ts)

/-- Takes the next token if `f` accepts its lexeme. -/
def take (f : Lexeme → Option α) : Parser α := fun ts =>
  match ts with
  | t :: r => (f t.lexeme).map fun a => (a, r)
  | [] => none

/-- Takes a sign. -/
def sign (s : String) : Parser Unit :=
  take fun l => match l with
    | .op o => if o == s then some () else none
    | _ => none

/-- Takes a keyword, or a name that serves as one. -/
def word (s : String) : Parser Unit :=
  take fun l => match l with
    | .word w => if w == s then some () else none
    | _ => none

/-- Takes a name. -/
def name : Parser String :=
  take fun l => match l with
    | .word w => if keywords.contains w then none else some w
    | _ => none

/-- Takes a mark of layout. -/
def mark (m : Lexeme) : Parser Unit := take fun l => if l == m then some () else none

def atSign (s : String) : Parser Bool := return (← peek) == .op s

def atWord (s : String) : Parser Bool := return (← peek) == .word s

/-- Takes a sign if it is next. -/
def skipSign (s : String) : Parser Bool := (do sign s; pure true) <|> pure false

/-- Takes a keyword if it is next. -/
def skipWord (s : String) : Parser Bool := (do word s; pure true) <|> pure false

/-- What `p` reads, or nothing if it fails. -/
def maybe (p : Parser α) : Parser (Option α) := some <$> p <|> pure none

/-- Fails unless `b`. -/
def require (b : Bool) : Parser Unit := if b then pure () else failure

/-- What an option holds; fails if it holds nothing. -/
def ofOption (a : Option α) : Parser α := fun ts => a.map fun a => (a, ts)

def repeatUpTo (step : α → Parser (Option α)) : Nat → α → Parser α
  | 0, a => pure a
  | n + 1, a => do
    match ← step a with
    | some b => repeatUpTo step n b
    | none => pure a

/-- Goes on from `a` as long as `step` answers; every answer takes a token. Most loops end at once,
so the tokens are counted only after the first answer. -/
def loop (step : α → Parser (Option α)) (a : α) : Parser α := do
  match ← step a with
  | some b => fun ts => repeatUpTo step ts.length b ts
  | none => pure a

/-- As many `p` as follow each other. -/
def many (p : Parser α) : Parser (List α) :=
  List.reverse <$> loop (fun done => maybe ((· :: done) <$> p)) []

/-- One or more `p` with a separator between them. -/
def separated (sep : Parser Unit) (p : Parser α) : Parser (List α) := do
  let first ← p
  List.reverse <$> loop (fun done => maybe do sep; return (← p) :: done) [first]

/-- One or more `p` with commas between them, and whether a last comma follows. -/
def commaList (p : Parser α) : Parser (List α × Bool) := do
  let xs ← separated (sign ",") p
  return (xs, ← skipSign ",")

/-- Left operand by left operand: `step` extends what stands before it. -/
def chain (first : Parser α) (step : α → Parser α) : Parser α := do
  loop (fun a => maybe (step a)) (← first)

/-- What `p` reads, and the tokens it took. -/
def withTokens (p : Parser α) : Parser (α × List Token) := fun ts => do
  let (a, rest) ← p ts
  some ((a, ts.take (ts.length - rest.length)), rest)

end Parser

end Exemplar.Syntax
