import Exemplar.Datum
import Exemplar.Raised
import Exemplar.Syntax.Printer

/-
  Literals: the example values that are passed as arguments. A literal is printed as source text
  and stands for a datum; a record is written as a dictionary with texts as keys.
-/

namespace Exemplar

inductive Number
  | int (n : Int)
  | float (x : Binary64)
  deriving DecidableEq, Inhabited

inductive Literal
  | text (s : String)
  | number (n : Number)
  | boolean (b : Bool)
  | none
  | list (items : List Literal)
  | tuple (items : List Literal)
  | mapping (entries : List (Literal × Literal))
  | record (fields : List (String × Literal))
  deriving Inhabited

namespace Literal

def ofScalar : Scalar → Literal
  | .none => .none
  | .bool b => .boolean b
  | .int n => .number (.int n)
  | .float x => .number (.float x)
  | .str s => .text s

mutual

/-- The literal as it can stand for a key: sequences become tuples of such, and dictionaries and
records the empty tuple. -/
def keyForm : Literal → Literal
  | .list items => .tuple (keyForms items)
  | .tuple items => .tuple (keyForms items)
  | .mapping _ => .tuple []
  | .record _ => .tuple []
  | l => l

def keyForms : List Literal → List Literal
  | [] => []
  | l :: ls => keyForm l :: keyForms ls

end

mutual

/-- The expression that writes the literal. -/
def toExpr : Literal → Expr
  | .text s => .const (.str s)
  | .number (.int n) => .const (.int n)
  | .number (.float x) => .const (.float x)
  | .boolean b => .const (.bool b)
  | .none => .const .none
  | .list items => .list (toExprs items)
  | .tuple items => .tuple (toExprs items)
  | .mapping entries => .dict (entryExprs entries)
  | .record fields => .dict (fieldExprs fields)

def toExprs : List Literal → List Expr
  | [] => []
  | l :: ls => toExpr l :: toExprs ls

def entryExprs : List (Literal × Literal) → List (Option Expr × Expr)
  | [] => []
  | (k, v) :: es => (some (toExpr k), toExpr v) :: entryExprs es

def fieldExprs : List (String × Literal) → List (Option Expr × Expr)
  | [] => []
  | (n, v) :: fs => (some (.const (.str n)), toExpr v) :: fieldExprs fs

end

/-- The literal as source text. -/
def render (l : Literal) : String := Syntax.print l.toExpr

/-- The same, unless an integer in it is too long to be written. -/
def source (l : Literal) : Except Raised String := Syntax.source l.toExpr

/-- Why a datum is no key. -/
def unhashable (type : String) : Raised := .typeError ("unhashable type: '" ++ type ++ "'")

mutual

/-- The datum that the literal stands for. Keys are checked in order, each once its value is
known. -/
def toDatum : Literal → Except Raised Datum
  | .text s => .ok (.scalar (.str s))
  | .number (.int n) => .ok (.scalar (.int n))
  | .number (.float x) => .ok (.scalar (.float x))
  | .boolean b => .ok (.scalar (.bool b))
  | .none => .ok (.scalar .none)
  | .list items => do
    let xs ← toData items
    pure (.list xs)
  | .tuple items => do
    let xs ← toData items
    pure (.tuple xs)
  | .mapping entries => do
    let es ← toEntries [] entries
    pure (.dict es)
  | .record fields => do
    let es ← toFields [] fields
    pure (.dict es)

def toData : List Literal → Except Raised (List Datum)
  | [] => .ok []
  | l :: ls => do
    let x ← toDatum l
    let xs ← toData ls
    pure (x :: xs)

def toEntries (done : List (Datum × Datum)) :
    List (Literal × Literal) → Except Raised (List (Datum × Datum))
  | [] => .ok done
  | (k, v) :: es => do
    let key ← toDatum k
    let value ← toDatum v
    match key.unhashable? with
    | some type => .error (unhashable type)
    | Option.none => toEntries (Datum.put done key value) es

def toFields (done : List (Datum × Datum)) :
    List (String × Literal) → Except Raised (List (Datum × Datum))
  | [] => .ok done
  | (n, v) :: fs => do
    let value ← toDatum v
    toFields (Datum.put done (.scalar (.str n)) value) fs

end

end Literal

end Exemplar
