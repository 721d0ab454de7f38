import Exemplar.Shape
import Exemplar.Docstring
import Exemplar.LineIndex

/-
  The callables of a file: its functions and the lambdas that it binds to a name, outside of any
  block. A parameter takes the shape of its hint, or else that of its documentation; one whose
  hint is at fault is of unknown shape, if the fault can be reported. Parameters that take any
  number of arguments are left out.
-/

namespace Exemplar.Callables

/-- The parameters that take an argument by its place. -/
def positional (ps : List Parameter) : List Parameter :=
  ps.filter fun p => p.kind == .positionalOnly || p.kind == .ordinary

def keywordOnly (ps : List Parameter) : List Parameter := ps.filter (·.kind == .keywordOnly)

/-- The documentation of a function: a text that stands first in its body. -/
def docstring? (body : List Stmt) : Option String :=
  match body.head?.map Stmt.action with
  | some (.expr (.mk _ (.const (.str s _)))) => some s
  | _ => none

/-- The hints of arguments that a hint for a callable lists. -/
def argumentHints : Expr → List Expr
  | .subscript head (.tuple (.list hints :: _)) =>
    if head.tailName? == some "Callable" then hints else []
  | _ => []

/-- A parameter as a statement gives it. -/
structure Hinted where
  name : String
  hint : Option Expr
  keywordOnly : Bool := false

/-- What a statement declares that can be called, and the characters that declare it. -/
structure Declared where
  name : String
  parameters : List Hinted
  documentation : String := ""
  anchor : Nat
  stop : Nat
  isAsync : Bool := false

/-- The parameters of a function, those passed by name last. -/
def functionParameters (ps : List Parameter) : List Hinted :=
  (positional ps).map (fun p => { name := p.name, hint := p.hint }) ++
    (keywordOnly ps).map fun p => { name := p.name, hint := p.hint, keywordOnly := true }

/-- The parameters of a lambda, given hints for the first of them. -/
def lambdaParameters (hints : List Expr) (ps : List Parameter) : List Hinted :=
  (positional ps).zipIdx.map (fun (p, i) => { name := p.name, hint := hints[i]? }) ++
    (keywordOnly ps).map fun p => { name := p.name, hint := none, keywordOnly := true }

/-- What a statement declares that can be called, if anything. -/
def declared? (lines : LineIndex) (s : Stmt) : Option Declared :=
  let anchor := lines.offset s.start.line s.start.column
  let stop := lines.offset s.stop.line s.stop.column
  match s.action with
  | .function isAsync name ps _ _ body =>
    some
      { name := name, parameters := functionParameters (Tree.parameters ps)
        documentation := (docstring? body).getD ""
        anchor := anchor, stop := stop, isAsync := isAsync }
  | .assign [.mk _ (.name name)] (.mk _ (.lambda ps _)) =>
    some
      { name := name, parameters := lambdaParameters [] (Tree.parameters ps)
        anchor := anchor, stop := stop }
  | .annAssign (.mk _ (.name name)) hint (some (.mk _ (.lambda ps _))) _ =>
    some
      { name := name, parameters := lambdaParameters (argumentHints hint.expr) (Tree.parameters ps)
        anchor := anchor, stop := stop }
  | _ => none

/-- The shape that hints give, or the unknown shape if they are at fault. The fault is reported with
the text of the parameter's own hint. -/
def shapeOrUnknown (t : Declarations) (hint documented : Option Expr) : HintM Shape :=
  match t.resolve hint documented with
  | .ok s => .ok s
  | .error _ =>
    match hint.bind Syntax.Unprintable.of? with
    | some why => .error (.unwritable why)
    | none => .ok .unknown

/-- A parameter with its shape, given the types that documentation names. -/
def Hinted.read (t : Declarations) (docs : List (String × Expr)) (p : Hinted) :
    HintM ShapedParameter := do
  let s ← shapeOrUnknown t p.hint (docs.lookup p.name)
  return { name := p.name, shape := s, keywordOnly := p.keywordOnly }

/-- A callable with the shapes of its parameters. -/
def Declared.read (t : Declarations) (d : Declared) : HintM Callable := do
  let docs ← Docstring.types d.documentation
  let parameters ← d.parameters.mapM (Hinted.read t docs)
  return { name := d.name, parameters, anchor := d.anchor, stop := d.stop, isAsync := d.isAsync }

/-- The callables of a file in the order of its statements. -/
def ofFile (text : List Char) (body : List Stmt) : HintM (List Callable) :=
  (body.filterMap (declared? (.ofText text))).mapM (Declared.read (.ofStmts body))

end Exemplar.Callables
