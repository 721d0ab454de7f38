import Exemplar.Decimal.Binary64

/-
  Expressions of Python source, without the places where they stand in it.
-/

namespace Exemplar

/-- A value that is written out in the source. A text may be marked with the letter `u`. -/
inductive Constant
  | none
  | ellipsis
  | bool (b : Bool)
  | int (n : Int)
  | float (x : Binary64)
  | imaginary (x : Binary64)
  | str (s : String) (marked : Bool := false)
  | bytes (b : List UInt8)
  deriving DecidableEq, Inhabited

inductive UnaryOp
  | invert | not | plus | minus
  deriving DecidableEq

inductive BinaryOp
  | add | sub | mult | matMult | div | mod | pow | shiftLeft | shiftRight | bitOr | bitXor
  | bitAnd | floorDiv
  deriving DecidableEq

inductive BoolOp
  | and | or
  deriving DecidableEq

inductive CompareOp
  | eq | notEq | lt | le | gt | ge | is | isNot | isIn | notIn
  deriving DecidableEq

/-- The five ways in which a parameter takes arguments. -/
inductive ParameterKind
  | positionalOnly | ordinary | variadic | keywordOnly | keywordVariadic
  deriving DecidableEq

mutual

inductive Expr
  | const (c : Constant)
  | name (id : String)
  | attribute (value : Expr) (attr : String)
  | subscript (value index : Expr)
  | call (func : Expr) (args : List Expr) (keywords : List Keyword)
  | unary (op : UnaryOp) (operand : Expr)
  | binary (left : Expr) (op : BinaryOp) (right : Expr)
  | bool (op : BoolOp) (values : List Expr)
  | compare (left : Expr) (rest : List (CompareOp × Expr))
  | conditional (test body orelse : Expr)
  | lambda (params : List Parameter) (body : Expr)
  | list (items : List Expr)
  | tuple (items : List Expr)
  | set (items : List Expr)
  /-- An entry without a key spreads its value. -/
  | dict (entries : List (Option Expr × Expr))
  | listComp (element : Expr) (clauses : List Clause)
  | setComp (element : Expr) (clauses : List Clause)
  | generator (element : Expr) (clauses : List Clause)
  | dictComp (key value : Expr) (clauses : List Clause)
  | await (value : Expr)
  | yield (value : Option Expr)
  | yieldFrom (value : Expr)
  | named (target : String) (value : Expr)
  | starred (value : Expr)
  | slice (lower upper step : Option Expr)
  /-- A formatted text of constant and formatted parts. -/
  | joined (parts : List Expr)
  | formatted (value : Expr) (conversion : Option Char) (spec : Option Expr)

/-- An argument with a name; without one its value is spread. -/
inductive Keyword
  | mk (name : Option String) (value : Expr)

/-- One `for` of a comprehension with its conditions. -/
inductive Clause
  | mk (isAsync : Bool) (target iter : Expr) (conditions : List Expr)

inductive Parameter
  | mk (kind : ParameterKind) (name : String) (hint default : Option Expr)

end

instance : Inhabited Expr := ⟨.const .none⟩

namespace Keyword

def name : Keyword → Option String
  | mk n _ => n

def value : Keyword → Expr
  | mk _ v => v

end Keyword

namespace Clause

def isAsync : Clause → Bool
  | mk a _ _ _ => a

def target : Clause → Expr
  | mk _ t _ _ => t

def iter : Clause → Expr
  | mk _ _ i _ => i

def conditions : Clause → List Expr
  | mk _ _ _ c => c

end Clause

namespace Parameter

def kind : Parameter → ParameterKind
  | mk k _ _ _ => k

def name : Parameter → String
  | mk _ n _ _ => n

def hint : Parameter → Option Expr
  | mk _ _ a _ => a

def default : Parameter → Option Expr
  | mk _ _ _ d => d

end Parameter

namespace Expr

/-- The name itself, or the attribute of a dotted name. -/
def tailName? : Expr → Option String
  | .name id => some id
  | .attribute _ attr => some attr
  | _ => none

end Expr

end Exemplar
