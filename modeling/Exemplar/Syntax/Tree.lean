import Exemplar.Syntax.Expr
import Exemplar.Syntax.Token

/-
  Expressions with the lines that their nodes start on. The parser makes them; rules about scopes
  and places refuse a node on its line. What an expression means does not depend on its lines, and
  `expr` leaves them out.

  Statements of Python source. A statement knows where it starts and stops; decorators stand in
  front of the start of what they decorate.
-/

namespace Exemplar

mutual

/-- An expression and the line that it starts on. -/
inductive Tree
  | mk (line : Nat) (form : Form)

/-- What an expression is, with lines inside. -/
inductive Form
  | const (c : Constant)
  | name (id : String)
  | attribute (value : Tree) (attr : String)
  | subscript (value index : Tree)
  | call (func : Tree) (args : List Tree) (keywords : List TreeKeyword)
  | unary (op : UnaryOp) (operand : Tree)
  | binary (left : Tree) (op : BinaryOp) (right : Tree)
  | bool (op : BoolOp) (values : List Tree)
  | compare (left : Tree) (rest : List (CompareOp × Tree))
  | conditional (test body orelse : Tree)
  | lambda (params : List TreeParameter) (body : Tree)
  | list (items : List Tree)
  | tuple (items : List Tree)
  | set (items : List Tree)
  /-- An entry without a key spreads its value. -/
  | dict (entries : List (Option Tree × Tree))
  | listComp (element : Tree) (clauses : List TreeClause)
  | setComp (element : Tree) (clauses : List TreeClause)
  | generator (element : Tree) (clauses : List TreeClause)
  | dictComp (key value : Tree) (clauses : List TreeClause)
  | await (value : Tree)
  | yield (value : Option Tree)
  | yieldFrom (value : Tree)
  | named (target : String) (value : Tree)
  | starred (value : Tree)
  | slice (lower upper step : Option Tree)
  /-- A formatted text of constant and formatted parts. -/
  | joined (parts : List Tree)
  | formatted (value : Tree) (conversion : Option Char) (spec : Option Tree)

/-- An argument with a name; without one its value is spread. -/
inductive TreeKeyword
  | mk (name : Option String) (value : Tree) (line : Nat)

/-- One `for` of a comprehension with its conditions. -/
inductive TreeClause
  | mk (isAsync : Bool) (target iter : Tree) (conditions : List Tree)

inductive TreeParameter
  | mk (kind : ParameterKind) (name : String) (hint default : Option Tree) (line : Nat)

end

instance : Inhabited Tree := ⟨.mk 0 (.const .none)⟩

namespace TreeKeyword

def name : TreeKeyword → Option String
  | mk n _ _ => n

def value : TreeKeyword → Tree
  | mk _ v _ => v

def line : TreeKeyword → Nat
  | mk _ _ l => l

end TreeKeyword

namespace TreeParameter

def kind : TreeParameter → ParameterKind
  | mk k _ _ _ _ => k

def name : TreeParameter → String
  | mk _ n _ _ _ => n

def hint : TreeParameter → Option Tree
  | mk _ _ a _ _ => a

def default : TreeParameter → Option Tree
  | mk _ _ _ d _ => d

def line : TreeParameter → Nat
  | mk _ _ _ _ l => l

end TreeParameter

namespace Tree

def line : Tree → Nat
  | mk l _ => l

def form : Tree → Form
  | mk _ f => f

mutual

/-- The expression without its lines. -/
def expr : Tree → Expr
  | mk _ f => formExpr f

def formExpr : Form → Expr
  | .const c => .const c
  | .name n => .name n
  | .attribute v a => .attribute (expr v) a
  | .subscript v i => .subscript (expr v) (expr i)
  | .call f as ks => .call (expr f) (exprs as) (keywords ks)
  | .unary op e => .unary op (expr e)
  | .binary l op r => .binary (expr l) op (expr r)
  | .bool op es => .bool op (exprs es)
  | .compare l rest => .compare (expr l) (comparisons rest)
  | .conditional t a b => .conditional (expr t) (expr a) (expr b)
  | .lambda ps b => .lambda (parameters ps) (expr b)
  | .list es => .list (exprs es)
  | .tuple es => .tuple (exprs es)
  | .set es => .set (exprs es)
  | .dict es => .dict (entries es)
  | .listComp e cs => .listComp (expr e) (clauses cs)
  | .setComp e cs => .setComp (expr e) (clauses cs)
  | .generator e cs => .generator (expr e) (clauses cs)
  | .dictComp k v cs => .dictComp (expr k) (expr v) (clauses cs)
  | .await e => .await (expr e)
  | .yield e => .yield (option e)
  | .yieldFrom e => .yieldFrom (expr e)
  | .named n e => .named n (expr e)
  | .starred e => .starred (expr e)
  | .slice a b s => .slice (option a) (option b) (option s)
  | .joined es => .joined (exprs es)
  | .formatted e c s => .formatted (expr e) c (option s)

def exprs : List Tree → List Expr
  | [] => []
  | e :: es => expr e :: exprs es

def option : Option Tree → Option Expr
  | none => none
  | some e => some (expr e)

def keywords : List TreeKeyword → List Keyword
  | [] => []
  | .mk n v _ :: ks => .mk n (expr v) :: keywords ks

def comparisons : List (CompareOp × Tree) → List (CompareOp × Expr)
  | [] => []
  | (op, e) :: r => (op, expr e) :: comparisons r

def entries : List (Option Tree × Tree) → List (Option Expr × Expr)
  | [] => []
  | (k, v) :: r => (option k, expr v) :: entries r

def clauses : List TreeClause → List Clause
  | [] => []
  | .mk a t i cs :: r => .mk a (expr t) (expr i) (exprs cs) :: clauses r

def parameters : List TreeParameter → List Parameter
  | [] => []
  | .mk k n h d _ :: ps => .mk k n (option h) (option d) :: parameters ps

end

end Tree

/-! ## Statements -/

open Syntax (Place)

/-- A module or an attribute of one, and the name that it is bound to if that is another. -/
structure Import where
  path : List String
  alias? : Option String
  line : Nat := 0
  deriving DecidableEq, Inhabited

/-- What a `match` statement compares its subject with, and the line that it starts on. -/
inductive Pattern
  | value (e : Tree) (line : Nat)
  | sequence (items : List Pattern) (line : Nat)
  | mapping (entries : List (Tree × Pattern)) (rest : Option String) (line : Nat)
  | classOf (cls : Tree) (args : List Pattern) (keywords : List (String × Pattern)) (line : Nat)
  /-- The rest of a sequence, bound to a name unless it is a blank. -/
  | star (name : Option String) (line : Nat)
  /-- Binds a name; without a name it matches anything. -/
  | capture (inner : Option Pattern) (name : Option String) (line : Nat)
  | alternatives (patterns : List Pattern) (line : Nat)
  deriving Inhabited

namespace Pattern

def line : Pattern → Nat
  | value _ l => l
  | sequence _ l => l
  | mapping _ _ l => l
  | classOf _ _ _ l => l
  | star _ l => l
  | capture _ _ l => l
  | alternatives _ l => l

end Pattern

mutual

inductive Stmt
  | mk (action : Action) (start stop : Place)

inductive Action
  | function (isAsync : Bool) (name : String) (params : List TreeParameter) (returns : Option Tree)
      (decorators : List Tree) (body : List Stmt)
  | classDef (name : String) (bases : List Tree) (keywords : List TreeKeyword)
      (decorators : List Tree) (body : List Stmt)
  | ret (value : Option Tree)
  | delete (targets : List Tree)
  | assign (targets : List Tree) (value : Tree)
  | augAssign (target : Tree) (op : BinaryOp) (value : Tree)
  | annAssign (target hint : Tree) (value : Option Tree) (simple : Bool)
  | forIn (isAsync : Bool) (target iter : Tree) (body orelse : List Stmt)
  | whileTrue (test : Tree) (body orelse : List Stmt)
  | ifTrue (test : Tree) (body orelse : List Stmt)
  | withItems (isAsync : Bool) (items : List (Tree × Option Tree)) (body : List Stmt)
  | matchOn (subject : Tree) (cases : List Case)
  | raise (exception cause : Option Tree)
  /-- With `grouped` the handlers take exceptions out of groups. -/
  | tryBlock (body : List Stmt) (handlers : List Handler) (orelse final : List Stmt)
      (grouped : Bool)
  | assert (test : Tree) (message : Option Tree)
  | importModules (names : List Import)
  /-- The level counts leading dots; the only name may be a star. -/
  | importFrom (level : Nat) (module : List String) (names : List Import)
  | global (names : List String)
  | nonlocal (names : List String)
  | expr (value : Tree)
  | pass
  | break
  | continue

/-- A handler for exceptions of a type; without a type it takes all. -/
inductive Handler
  | mk (type : Option Tree) (name : Option String) (body : List Stmt) (line : Nat)

inductive Case
  | mk (pattern : Pattern) (guard : Option Tree) (body : List Stmt)

end

namespace Action

/-- The name of a kind of statement in the abstract grammar of the language. -/
def kind : Action → String
  | .function false _ _ _ _ _ => "FunctionDef"
  | .function true _ _ _ _ _ => "AsyncFunctionDef"
  | .classDef _ _ _ _ _ => "ClassDef"
  | .ret _ => "Return"
  | .delete _ => "Delete"
  | .assign _ _ => "Assign"
  | .augAssign _ _ _ => "AugAssign"
  | .annAssign _ _ _ _ => "AnnAssign"
  | .forIn false _ _ _ _ => "For"
  | .forIn true _ _ _ _ => "AsyncFor"
  | .whileTrue _ _ _ => "While"
  | .ifTrue _ _ _ => "If"
  | .withItems false _ _ => "With"
  | .withItems true _ _ => "AsyncWith"
  | .matchOn _ _ => "Match"
  | .raise _ _ => "Raise"
  | .tryBlock _ _ _ _ false => "Try"
  | .tryBlock _ _ _ _ true => "TryStar"
  | .assert _ _ => "Assert"
  | .importModules _ => "Import"
  | .importFrom _ _ _ => "ImportFrom"
  | .global _ => "Global"
  | .nonlocal _ => "Nonlocal"
  | .expr _ => "Expr"
  | .pass => "Pass"
  | .break => "Break"
  | .continue => "Continue"

end Action

instance : Inhabited Stmt := ⟨.mk .pass default default⟩

namespace Stmt

def action : Stmt → Action
  | mk a _ _ => a

def start : Stmt → Place
  | mk _ s _ => s

def stop : Stmt → Place
  | mk _ _ s => s

end Stmt

end Exemplar
