import Exemplar.Decimal.Binary64
import Exemplar.Syntax.Scope.Mention
import Exemplar.Text.Quoted

/-
  The names that a pattern captures, in the order in which they are stored. A pattern is refused if
  it captures a name twice, if what stands behind a part of it can never be reached, or if its
  alternatives capture different names. A refusal is on the line of the part that was looked at
  last, so the line goes through the parts beside the names.
-/

namespace Exemplar.Syntax.Capture

/-- The captured names so far and the line of the last part. -/
structure Progress where
  names : List String := []
  line : Nat

/-- The names after a part, or why the pattern is refused. -/
abbrev Names := Except SyntaxFault Progress

/-- Adds a captured name. -/
def store (p : Progress) : Option String → Names
  | none => .ok p
  | some n =>
    if n == debugName then refuse p.line "cannot assign to __debug__"
    else if p.names.contains n then
      refuse p.line ("multiple assignments to name " ++ Text.quote n ++ " in pattern")
    else .ok { p with names := p.names ++ [n] }

/-- A number as a quotient in lowest terms, or an infinity by its sign. -/
inductive Exact
  | ratio (num : Int) (den : Nat)
  | infinite (negative : Bool)
  deriving DecidableEq

def Exact.ofDouble (x : Binary64) : Exact :=
  if x.isFinite then
    let (num, den) := x.magnitude
    let g := Nat.gcd num den
    .ratio (if x.negative then -((num / g : Nat) : Int) else (num / g : Nat)) (den / g)
  else .infinite x.negative

/-- A constant that a key of a mapping is: the real and the imaginary part of a number, or something
else. Numbers are the same key if they are equal. -/
inductive Key
  | number (re im : Exact)
  | other (c : Constant)
  deriving DecidableEq

/-- A number of a key, with a fraction, with an imaginary part, or whole. -/
inductive Literal
  | whole (n : Int)
  | real (x : Binary64)
  | complex (re im : Binary64)

namespace Literal

def neg : Literal → Literal
  | whole n => whole (-n)
  | real x => real x.neg
  | complex a b => complex a.neg b.neg

def double : Literal → Binary64
  | whole n => Binary64.ofInt n
  | real x => x
  | complex a _ => a

def exact : Literal → Key
  | whole n => .number (.ratio n 1) (.ratio 0 1)
  | real x => .number (.ofDouble x) (.ratio 0 1)
  | complex a b => .number (.ofDouble a) (.ofDouble b)

def text : Literal → String
  | whole n => toString n
  | real x => Decimal.floatText x
  | complex a b => Decimal.complexText a b

end Literal

/-- The number that a key is: one with a sign, or a sum with an imaginary number. -/
def number? : Expr → Option Literal
  | .const (.int n) => some (.whole n)
  | .const (.float x) => some (.real x)
  | .const (.imaginary y) => some (.complex .zero y)
  | .unary .minus e => (number? e).map .neg
  | .binary a .add (.const (.imaginary y)) =>
    (number? a).map fun x => .complex (if x.double.isZero then .zero else x.double) y
  | .binary a .sub (.const (.imaginary y)) =>
    (number? a).map fun x => .complex x.double (if y.isZero then y else y.neg)
  | _ => none

/-- The constant that a key is, and how a message shows it. -/
def key? (e : Expr) : Option (Key × String) :=
  match e, number? e with
  | _, some n => some (n.exact, n.text)
  | .const .none, _ => some (.other .none, "None")
  | .const (.bool b), _ =>
    some (.number (.ratio (if b then 1 else 0) 1) (.ratio 0 1), if b then "True" else "False")
  | .const (.str s _), _ => some (.other (.str s), Text.quote s)
  | .const (.bytes b), _ => some (.other (.bytes b), Text.quoteBytes b)
  | _, _ => none

def isAttribute : Expr → Bool
  | .attribute _ _ => true
  | _ => false

/-- Refuses keys that are the same constant, and keys that are neither constants nor attributes. -/
def checkKeys (line : Nat) (seen : List Key) : List (Tree × Pattern) → Except SyntaxFault Unit
  | [] => .ok ()
  | (k, _) :: r =>
    match key? k.expr with
    | some (c, shown) =>
      if seen.contains c then
        refuse line ("mapping pattern checks duplicate key (" ++ shown ++ ")")
      else checkKeys line (c :: seen) r
    | none =>
      if isAttribute k.expr then checkKeys line seen r
      else refuse line "mapping pattern keys may only match literals and attribute lookups"

/-- Refuses a name of an attribute that is given twice, on the line of the pattern beside it. -/
def checkAttributes : List (String × Pattern) → Except SyntaxFault Unit
  | [] => .ok ()
  | (n, p) :: r =>
    if n == debugName then refuse p.line "cannot assign to __debug__"
    else match r.find? (·.1 == n) with
    | some (_, q) => refuse q.line ("attribute name repeated in class pattern: " ++ n)
    | none => checkAttributes r

def isStar : Pattern → Bool
  | .star _ _ => true
  | _ => false

/-- Whether a pattern matches anything and captures nothing. -/
def isBlank : Pattern → Bool
  | .capture none none _ => true
  | _ => false

def isBlankStar : Pattern → Bool
  | .star none _ => true
  | _ => false

/-- The most parts that may stand before a star. -/
def maxBeforeStar : Nat := 255

/-- Refuses a second star in a sequence, and a star that takes something behind too many parts. -/
def checkStars (line : Nat) (ps : List Pattern) : Except SyntaxFault Unit :=
  if 2 ≤ ps.countP isStar then refuse line "multiple starred names in sequence pattern"
  else if ps.any (fun p => isStar p && !isBlankStar p) &&
      maxBeforeStar < (ps.takeWhile (!isStar ·)).length then
    refuse line "too many expressions in star-unpacking sequence pattern"
  else .ok ()

/-- Whether the blanks of a sequence are passed over, as its items are taken one by one. -/
def skipsBlanks (ps : List Pattern) : Bool :=
  ps.any isBlankStar || ps.all fun p => isBlank p || isBlankStar p

mutual

/-- The captured names after a pattern; `last` tells that it may match anything. -/
def pattern (last : Bool) (names : List String) : Pattern → Names
  | .value e l =>
    if (key? e.expr).isSome || isAttribute e.expr then .ok ⟨names, l⟩
    else refuse l "patterns may only match literals and attribute lookups"
  | .sequence ps l => do
    checkStars l ps
    patterns (skipsBlanks ps) ⟨names, l⟩ ps
  | .mapping es rest l => do
    checkKeys l [] es
    store (← entries ⟨names, l⟩ es) rest
  | .classOf _ ps ks l => do
    checkAttributes ks
    attributes (← patterns true ⟨names, l⟩ ps) ks
  | .star n l => store ⟨names, l⟩ n
  | .capture none n l =>
    if last then store ⟨names, l⟩ n
    else match n with
    | some n =>
      refuse l ("name capture " ++ Text.quote n ++ " makes remaining patterns unreachable")
    | none => refuse l "wildcard makes remaining patterns unreachable"
  | .capture (some p) n _ => do store (← pattern last names p) n
  | .alternatives ps l => do
    let p ← alternatives last none ps l
    p.names.foldlM (fun q n => store q (some n)) ⟨names, p.line⟩

/-- The names after parts, each of which may match anything. -/
def patterns (skip : Bool) (done : Progress) : List Pattern → Names
  | [] => .ok done
  | p :: ps => do
    let blank := skip && (isBlank p || isBlankStar p)
    patterns skip (← if blank then .ok done else pattern true done.names p) ps

def entries (done : Progress) : List (Tree × Pattern) → Names
  | [] => .ok done
  | (_, p) :: r => do entries (← pattern true done.names p) r

def attributes (done : Progress) : List (String × Pattern) → Names
  | [] => .ok done
  | (_, p) :: r => do
    attributes (← if isBlank p then .ok done else pattern true done.names p) r

/-- The names of alternatives, of which the first settles them; `line` is that of the last. -/
def alternatives (last : Bool) (first : Option (List String)) : List Pattern → Nat → Names
  | [], line => .ok ⟨first.getD [], line⟩
  | p :: ps, _ => do
    let found ← pattern (last && ps.isEmpty) [] p
    match first with
    | none => alternatives last (some found.names) ps found.line
    | some ns =>
      if found.names.length == ns.length && ns.all found.names.contains then
        alternatives last first ps found.line
      else refuse found.line "alternative patterns bind different names"

end

end Exemplar.Syntax.Capture
