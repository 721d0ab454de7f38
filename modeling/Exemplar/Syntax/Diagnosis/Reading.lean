import Std.Data.HashMap
import Exemplar.Syntax.Diagnosis.TextMessage

/-
  Reading tokens by rules that are tried in order. A rule answers, fails, or refuses the text; after
  a failure the next rule starts at the same token, but how far the reading has ever come is kept,
  for messages point there. Rules for common mistakes only refuse, and only when they are asked for.
  Answers are remembered by rule and token. Of an expression they keep a sketch: its kind, the line
  it starts on and, for kinds that can hold targets of assignments, its parts.
-/

namespace Exemplar.Syntax.Diagnosis

inductive SketchKind
  | name (id : String)
  | attribute | subscript | starred | list | tuple | lambda | call | operation | generator | yield
  | await | listComp | setComp | dictComp | dict | set | formatted | none | true | false | ellipsis
  | literal | conditional | named
  /-- Its first operator is `in`, or another. -/
  | comparison (isIn : Bool)
  /-- Arguments; they spread a mapping, or not. -/
  | arguments (spreads : Bool)
  /-- An argument with a name, or a mapping that is spread. -/
  | keyword | spread
  | other
  deriving DecidableEq

inductive Sketch
  | mk (kind : SketchKind) (line : Nat) (parts : List Sketch)

namespace Sketch

def kind : Sketch → SketchKind
  | mk k _ _ => k

def line : Sketch → Nat
  | mk _ l _ => l

def parts : Sketch → List Sketch
  | mk _ _ ps => ps

/-- What stands for something that is no expression. -/
def nothing : Sketch := mk .other 0 []

end Sketch

/-- The words for a kind of expression. -/
def SketchKind.words : SketchKind → String
  | .name _ => "name"
  | .attribute => "attribute"
  | .subscript => "subscript"
  | .starred => "starred"
  | .list => "list"
  | .tuple => "tuple"
  | .lambda => "lambda"
  | .call | .arguments _ => "function call"
  | .operation => "expression"
  | .generator => "generator expression"
  | .yield => "yield expression"
  | .await => "await expression"
  | .listComp => "list comprehension"
  | .setComp => "set comprehension"
  | .dictComp => "dict comprehension"
  | .dict => "dict literal"
  | .set => "set display"
  | .formatted => "f-string expression"
  | .none => "None"
  | .true => "True"
  | .false => "False"
  | .ellipsis => "ellipsis"
  | .literal => "literal"
  | .conditional => "conditional expression"
  | .named => "named expression"
  | .comparison _ => "comparison"
  | .keyword | .spread | .other => "expression"

/-- The places in which targets stand. -/
inductive TargetPlace
  | assignment | loop | deletion
  deriving DecidableEq

mutual

/-- The first part of an expression that is no target in a place. -/
def badTarget? (place : TargetPlace) : Sketch → Option Sketch
  | .mk kind line parts =>
    let whole := Sketch.mk kind line parts
    match kind with
    | .list | .tuple => badTargetIn? place parts
    | .starred => if place == .deletion then some whole else badTargetIn? place parts
    | .comparison isIn =>
      if place == .loop then if isIn then badTargetIn? place parts else none else some whole
    | .name _ | .subscript | .attribute => none
    | _ => some whole

def badTargetIn? (place : TargetPlace) : List Sketch → Option Sketch
  | [] => none
  | s :: ss => (badTarget? place s).or (badTargetIn? place ss)

end

/-- The rules that other rules inside them lead back to. -/
inductive Rule
  | statements | block | elifPart | simpleStatement | expression | starExpression | disjunction
  | conjunction | inversion | bitOr | bitXor | bitAnd | shift | sum | term | factor | awaitPrimary
  | primary | targetPrimary | texts | arguments | starTarget | starAtomTarget | singleTarget
  | deletedTarget | badNamed | badHintTarget | closedPattern
  deriving DecidableEq, Hashable

/-- Whether the answers of a rule are remembered. -/
def Rule.isRemembered : Rule → Bool
  | .statements | .elifPart | .singleTarget | .badHintTarget => false
  | _ => true

/-- What is read: tokens with the count of brackets that are open after each, and what follows. -/
structure Source where
  tokens : Array Token
  depths : Array Nat
  fault : Option SyntaxFault
  /-- What stands in front of messages. -/
  front : String
  /-- The first fault of an expression inside a text. -/
  field : Nat → List Char → Except SyntaxFault Unit

structure Progress where
  /-- The next token. -/
  mark : Nat := 0
  /-- How many tokens have been looked at. -/
  reach : Nat := 0
  /-- Whether the rules for common mistakes are asked for. -/
  helping : Bool
  remembered : Std.HashMap (Rule × Nat) (Option Sketch × Nat) := {}

/-- A fault, and the line of the last token that has been looked at unless it is a fault of the
tokens themselves. -/
structure Refusal where
  fault : SyntaxFault
  seen : Option Nat

/-- What comes of a reading. -/
inductive Outcome (α : Type)
  | answer (a : α) (after : Progress)
  | failed (after : Progress)
  | refused (r : Refusal)

def Reading (α : Type) : Type := Source → Progress → Outcome α

namespace Reading

instance : Monad Reading where
  pure a := fun _ p => .answer a p
  bind r f := fun source p =>
    match r source p with
    | .answer a p => f a source p
    | .failed p => .failed p
    | .refused r => .refused r

def failure : Reading α := fun _ p => .failed p

instance : Inhabited (Reading α) := ⟨failure⟩

def refuseWith (r : Refusal) : Reading α := fun _ _ => .refused r

/-- What is read. -/
def source : Reading Source := fun s p => .answer s p

/-- The place of the next token. -/
def mark : Reading Nat := fun _ p => .answer p.mark p

def goTo (place : Nat) : Reading Unit := fun _ p => .answer () { p with mark := place }

def isHelping : Reading Bool := fun _ p => .answer p.helping p

def setHelping (b : Bool) : Reading Unit := fun _ p => .answer () { p with helping := b }

def reachBeyond (place : Nat) : Reading Unit := fun _ p =>
  .answer () { p with reach := max p.reach (place + 1) }

/-- The next token, which has then been looked at. -/
def peek : Reading Token := do
  let place ← mark
  let s ← source
  match s.tokens[place]? with
  | some t =>
    reachBeyond place
    return t
  | none =>
    match s.fault with
    | some f => refuseWith ⟨f, none⟩
    | none => failure

/-- The line of the next token. -/
def here : Reading Nat := return (← peek).start.line

/-- The line of the last token that has been looked at. -/
def seen : Reading Nat := fun s p =>
  .answer ((s.tokens[p.reach - 1]?).elim 0 (·.start.line)) p

/-- Refuses the text with a message about a line. -/
def refuse (line : Nat) (message : String) (about : FaultClass := .general) : Reading α := do
  refuseWith ⟨⟨(← source).front ++ message, line, about⟩, some (← seen)⟩

/-- Refuses the text where the reading has come to. -/
def refuseHere (message : String) (about : FaultClass := .general) : Reading α := do
  refuse (← seen) message about

/-- Refuses a block that is not indented. -/
def refuseBlock (message : String) : Reading α := refuseHere message .indentation

def ofOption : Option α → Reading α
  | some a => return a
  | none => failure

/-! Rules in order -/

/-- What a rule answers, or nothing if it fails; then the next token is the same as before. -/
def attempt (r : Reading α) : Reading (Option α) := fun source p =>
  let place := p.mark
  match r source p with
  | .answer a p => .answer (some a) p
  | .failed p => .answer none { p with mark := place }
  | .refused r => .refused r

/-- The answer of the first rule that does not fail. -/
def first : List (Reading α) → Reading α
  | [] => failure
  | r :: rs => do
    match ← attempt r with
    | some a => return a
    | none => first rs

/-- Whether a rule answers from the next token on, which stays the next. -/
def would (r : Reading α) : Reading Bool := do
  let place ← mark
  let answer ← attempt r
  goTo place
  return answer.isSome

def require (b : Bool) : Reading Unit := if b then return () else failure

/-- Fails unless a rule would answer. -/
def look (r : Reading α) : Reading Unit := do require (← would r)

/-- Fails if a rule would answer. -/
def no (r : Reading α) : Reading Unit := do require !(← would r)

def skip (r : Reading α) : Reading Unit := discard (attempt r)

def manyUpTo (r : Reading α) : Nat → List α → Reading (List α)
  | 0, done => return done.reverse
  | n + 1, done => do
    match ← attempt r with
    | some a => manyUpTo r n (a :: done)
    | none => return done.reverse

/-- The answers of a rule as often as it does not fail; every answer takes a token. -/
def many (r : Reading α) : Reading (List α) := do manyUpTo r ((← source).tokens.size + 1) []

/-- The answers of a rule that answers at least once. -/
def some' (r : Reading α) : Reading (List α) := do
  let a ← r
  return a :: (← many r)

/-- The answers of a rule with a separator between them. -/
def separated (separator : Reading β) (r : Reading α) : Reading (List α) := do
  let a ← r
  return a :: (← many do discard separator; r)

def growUpTo (step : α → Reading α) : Nat → α → Reading α
  | 0, a => return a
  | n + 1, a => do
    match ← attempt (step a) with
    | some b => growUpTo step n b
    | none => return a

/-- What grows out of an answer as long as a step does not fail. -/
def grow (step : α → Reading α) (a : α) : Reading α := do
  growUpTo step ((← source).tokens.size + 1) a

/-- A rule for a common mistake, tried only when it is asked for. -/
def helping (r : Reading α) : Reading α := do if ← isHelping then r else failure

/-- Reads without the rules for common mistakes. -/
def withoutHelp (r : Reading α) : Reading α := do
  let before ← isHelping
  setHelping false
  let answer ← attempt r
  setHelping before
  ofOption answer

/-- What is remembered of a rule at a place: its answer and the place after it. -/
def recorded? (rule : Rule) (place : Nat) : Reading (Option (Option Sketch × Nat)) := fun _ p =>
  .answer p.remembered[(rule, place)]? p

def store (rule : Rule) (place : Nat) (answer : Option Sketch) : Reading Unit := fun _ p =>
  .answer () { p with remembered := p.remembered.insert (rule, place) (answer, p.mark) }

/-- Goes by the remembered answer of a rule, or remembers the one that it gives. -/
def remember (rule : Rule) (r : Reading Sketch) : Reading Sketch := do
  let place ← mark
  match ← recorded? rule place with
  | some (answer, after) =>
    goTo after
    ofOption answer
  | none =>
    let answer ← attempt r
    store rule place answer
    ofOption answer

/-! Tokens -/

/-- Takes the next token if it is of a kind; answers its line as well. -/
def take (f : Lexeme → Option α) : Reading (Nat × α) := do
  let t ← peek
  match f t.lexeme with
  | some a =>
    goTo ((← mark) + 1)
    return (t.start.line, a)
  | none => failure

def takeIf (f : Lexeme → Bool) : Reading Nat := do
  let (line, _) ← take fun l => if f l then some () else none
  return line

def sign (s : String) : Reading Nat := takeIf (· == .op s)

def signOf (ss : List String) : Reading Nat := first (ss.map sign)

def word (w : String) : Reading Nat := takeIf (· == .word w)

def newline : Reading Nat := takeIf (· == .newline)

def indent : Reading Nat := takeIf (· == .indent)

def dedent : Reading Nat := takeIf (· == .dedent)

def stop : Reading Nat := takeIf (· == .stop)

def name : Reading Sketch := do
  let (line, w) ← take fun
    | .word w => if keywords.contains w then none else some w
    | _ => none
  return .mk (.name w) line []

/-- Takes a sign and refuses the text if another token is next. -/
def forced (s : String) : Reading Nat := do
  let t ← peek
  if t.lexeme == .op s then sign s else refuse t.start.line ("expected '" ++ s ++ "'")

def optional (r : Reading α) : Reading (Option α) := attempt r

/-- One or more answers with commas between them and perhaps one behind. -/
def commaList (r : Reading α) : Reading (List α) := do
  let xs ← separated (sign ",") r
  skip (sign ",")
  return xs

end Reading

end Exemplar.Syntax.Diagnosis
