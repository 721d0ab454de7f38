import Exemplar.Shape
import Exemplar.Syntax.Parser.Stmt
import Exemplar.Syntax.Printer
import Exemplar.Syntax.Tree
import Exemplar.Text.Lines

/-
  The type declarations of a file. Every statement of the file that declares a name gives it its
  declaration; a name that is declared again takes the later one and keeps its place in the table.

  The shapes that type hints stand for. What a hint says that no shape can model is unknown in its
  own place. A name that a file declares stands for its declaration; inside that declaration it is
  unknown, so that no path expands a name twice and cycles come to an end.
-/

namespace Exemplar

/-- What a name stands for in a type. -/
inductive Declaration
  /-- Another name for a type. -/
  | synonym (value : Expr)
  /-- A dictionary with fixed keys, in the order of their declaration. -/
  | record (fields : List (String × Expr))
  /-- A class about whose values nothing is known. -/
  | unknownClass
  deriving Inhabited

namespace Declaration

/-- The hints of the names in a class body. -/
def classFields (body : List Stmt) : List (String × Expr) :=
  body.filterMap fun s => match s.action with
    | .annAssign (.mk _ (.name n)) hint _ _ => some (n, hint.expr)
    | _ => none

/-- The entries of a dictionary whose keys are texts. -/
def textEntries (entries : List (Option Expr × Expr)) : List (String × Expr) :=
  entries.filterMap fun (k, v) => match k with
    | some (.const (.str s _)) => some (s, v)
    | _ => none

/-- The fields of a dictionary type that a call declares by a dictionary of hints. -/
def calledFields? : Expr → Option (List (String × Expr))
  | .call func (_ :: .dict entries :: _) _ =>
    if func.tailName? == some "TypedDict" then some (textEntries entries) else none
  | _ => none

/-- What a statement declares. -/
def ofStmt? (s : Stmt) : Option (String × Declaration) :=
  match s.action with
  | .classDef name bases _ _ body =>
    if bases.any (·.expr.tailName? == some "TypedDict") then some (name, .record (classFields body))
    else some (name, .unknownClass)
  | .assign [.mk _ (.name name)] value =>
    match calledFields? value.expr with
    | some fields => some (name, .record fields)
    | none => some (name, .synonym value.expr)
  | .annAssign (.mk _ (.name name)) hint (some value) _ =>
    if hint.expr.tailName? == some "TypeAlias" then some (name, .synonym value.expr) else none
  | _ => none

end Declaration

/-- Names with their declarations, each name once, in the order of their first declaration. -/
structure Declarations where
  entries : List (String × Declaration) := []

namespace Declarations

/-- Replaces the entry of a name in its place, or adds it at the end. -/
def putEntry (name : String) (d : Declaration) :
    List (String × Declaration) → List (String × Declaration)
  | [] => [(name, d)]
  | (n, e) :: r => if n == name then (n, d) :: r else (n, e) :: putEntry name d r

def put (t : Declarations) (name : String) (d : Declaration) : Declarations :=
  ⟨putEntry name d t.entries⟩

def get? (t : Declarations) (name : String) : Option Declaration := t.entries.lookup name

def names (t : Declarations) : List String := t.entries.map (·.1)

/-- The declarations that statements make one after the other. -/
def ofStmts (body : List Stmt) : Declarations :=
  (body.filterMap Declaration.ofStmt?).foldl (fun t (n, d) => t.put n d) {}

end Declarations

end Exemplar

namespace Exemplar

/-- What is raised about a hint. -/
inductive HintFault
  /-- It quotes a text that holds the null character, which no source text may. -/
  | nullCharacter
  /-- It is at fault, and has no text by which that could be reported. -/
  | unwritable (why : Syntax.Unprintable)
  deriving DecidableEq

abbrev HintM := Except HintFault

namespace Hint

/-- Names that are known without a declaration. -/
def plainNames : List (String × Shape) :=
  [("str", .plain .text), ("Text", .plain .text), ("LiteralString", .plain .text),
   ("int", .plain .number), ("float", .plain .number), ("complex", .plain .number),
   ("bool", .plain .boolean), ("NoneType", .none), ("Any", .unknown), ("object", .unknown)]

def sequenceNames : List String :=
  ["list", "List", "Sequence", "MutableSequence", "Iterable", "Iterator", "Collection", "set",
   "Set", "frozenset", "FrozenSet", "AbstractSet", "MutableSet", "deque", "Deque"]

def mappingNames : List String :=
  ["dict", "Dict", "Mapping", "MutableMapping", "defaultdict", "DefaultDict", "OrderedDict"]

def tupleNames : List String := ["tuple", "Tuple"]

/-- Names that say something about the use of a type and leave its values as they are. -/
def wrapperNames : List String :=
  ["Annotated", "Final", "ClassVar", "Required", "NotRequired", "ReadOnly"]

/-- The shape of a known name without arguments. -/
def bareShape (name : String) : Shape :=
  match plainNames.lookup name with
  | some s => s
  | none =>
    if sequenceNames.contains name || tupleNames.contains name then .list .unknown
    else if mappingNames.contains name then .mapping .unknown .unknown
    else .unknown

/-- The scalar that an argument of a choice among literals stands for. -/
def scalar? : Expr → Option Scalar
  | .const .none => some .none
  | .const (.bool b) => some (.bool b)
  | .const (.int n) => some (.int n)
  | .const (.float x) => some (.float x)
  | .const (.str s _) => some (.str s)
  | .unary .minus (.const (.int n)) => some (.int (-n))
  | .unary .minus (.const (.float x)) => some (.float x.neg)
  | _ => none

/-- The choice among the arguments that are literals. -/
def choiceShape (args : List Expr) : Shape :=
  match args.filterMap scalar? with
  | [] => .unknown
  | vs => .choice vs

/-- How arguments in brackets are read, by the name in front of them. -/
inductive Form
  | optional | union | choice | wrapper | sequence | tuple | mapping | other
  deriving DecidableEq

def Form.ofName (name : String) : Form :=
  if name == "Optional" then .optional
  else if name == "Union" then .union
  else if name == "Literal" then .choice
  else if wrapperNames.contains name then .wrapper
  else if sequenceNames.contains name then .sequence
  else if tupleNames.contains name then .tuple
  else if mappingNames.contains name then .mapping
  else .other

/-- The arguments between the brackets of an index. -/
def arguments : Expr → List Expr
  | .tuple es => es
  | e => [e]

mutual

/-- The shape of a hint. `ref` gives the shapes of the names that the file declares, `quoted` those
of hints in quotes. -/
def shapeWith (ref : String → Option (HintM Shape)) (quoted : String → HintM Shape) :
    Expr → HintM Shape
  | .const .none => pure .none
  | .const (.str s _) => quoted s
  | .name n => (ref n).getD (pure (bareShape n))
  | .attribute _ attr => pure (bareShape attr)
  | .subscript head index =>
    match head.tailName? with
    | none => pure .unknown
    | some name =>
      let declared := match head with
        | .name n => ref n
        | _ => none
      match declared with
      | some s => s
      | none => indexShape ref quoted (Form.ofName name) index
  | .binary left .bitOr right => do
    let l ← shapeWith ref quoted left
    let r ← shapeWith ref quoted right
    pure (.unite [l, r])
  | _ => pure .unknown

/-- The shape of a form with what stands between its brackets. -/
def indexShape (ref : String → Option (HintM Shape)) (quoted : String → HintM Shape)
    (form : Form) : Expr → HintM Shape
  | .tuple es => argumentShape ref quoted form es
  | e =>
    match form with
    | .optional => do return .unite [← shapeWith ref quoted e, .none]
    | .union => do return .unite [← shapeWith ref quoted e]
    | .choice => pure (choiceShape [e])
    | .wrapper => shapeWith ref quoted e
    | .sequence => do return .list (← shapeWith ref quoted e)
    | .tuple => do return .tuple [← shapeWith ref quoted e]
    | .mapping => pure (.mapping .unknown .unknown)
    | .other => pure .unknown

/-- The shape of a form with a list of arguments. -/
def argumentShape (ref : String → Option (HintM Shape)) (quoted : String → HintM Shape)
    (form : Form) : List Expr → HintM Shape
  | [] => pure (if form == .tuple then .tuple [] else .unknown)
  | e :: es =>
    match form with
    | .optional => do return .unite [← shapeWith ref quoted e, .none]
    | .union => do
      let s ← shapeWith ref quoted e
      return .unite (s :: (← shapesWith ref quoted es))
    | .choice => pure (choiceShape (e :: es))
    | .wrapper => shapeWith ref quoted e
    | .sequence => do return .list (← shapeWith ref quoted e)
    | .tuple =>
      match e, es with
      | e, [.const .ellipsis] => do return .list (← shapeWith ref quoted e)
      | .tuple [], [] => pure (.tuple [])
      | e, es => do
        let s ← shapeWith ref quoted e
        return .tuple (s :: (← shapesWith ref quoted es))
    | .mapping =>
      match es with
      | [v] => do
        let k ← shapeWith ref quoted e
        return .mapping k (← shapeWith ref quoted v)
      | _ => pure (.mapping .unknown .unknown)
    | .other => pure .unknown

def shapesWith (ref : String → Option (HintM Shape)) (quoted : String → HintM Shape) :
    List Expr → HintM (List Shape)
  | [] => pure []
  | e :: es => do
    let s ← shapeWith ref quoted e
    return s :: (← shapesWith ref quoted es)

end

/-- The expression of a hint in quotes, if it is one. -/
def parseQuoted (s : String) : HintM (Option Expr) :=
  let text := Text.trim s.toList
  if text.contains '\x00' then .error .nullCharacter
  else .ok (Syntax.parseExpr? (Text.unifyLineEnds text))

/-- The shape of a hint in quotes that may itself quote hints some levels deep. -/
def quotedShape (ref : String → Option (HintM Shape)) : Nat → String → HintM Shape
  | 0, _ => pure .unknown
  | n + 1, s => do
    match ← parseQuoted s with
    | none => pure .unknown
    | some e => shapeWith ref (quotedShape ref n) e

/-- The shape of a hint, given the shapes of declared names. A quoted hint is shorter than the text
it stands in, so the length of a text bounds its levels. -/
def shapeIn (ref : String → Option (HintM Shape)) (e : Expr) : HintM Shape :=
  shapeWith ref (fun s => quotedShape ref (s.length + 1) s) e

end Hint

namespace Declarations

/-- The shape of each field in turn. -/
def fieldShapes (shape : Expr → HintM Shape) :
    List (String × Expr) → HintM (List (String × Shape))
  | [] => pure []
  | (n, e) :: fs => do
    let s ← shape e
    return (n, s) :: (← fieldShapes shape fs)

/-- The shape of a name inside the declarations of the names in `active`, where none of those is
expanded again. The number of names that are left bounds the levels. -/
def nameShape (t : Declarations) : Nat → List String → String → HintM Shape
  | 0, _, _ => pure .unknown
  | n + 1, active, name =>
    if active.contains name then pure .unknown
    else
      let ref := fun other =>
        (t.get? other).map fun _ => nameShape t n (name :: active) other
      match t.get? name with
      | some (.synonym value) => Hint.shapeIn ref value
      | some (.record fields) => .record <$> fieldShapes (Hint.shapeIn ref) fields
      | _ => pure .unknown

/-- How many levels of declarations can be expanded. -/
def depth (t : Declarations) : Nat := t.entries.length + 1

/-- The shape of a name that stands outside all declarations. -/
def resolveName (t : Declarations) (name : String) : HintM Shape := t.nameShape t.depth [] name

/-- The shape of a hint. -/
def shapeOf (t : Declarations) (e : Expr) : HintM Shape :=
  Hint.shapeIn (fun name => (t.get? name).map fun _ => t.resolveName name) e

/-- The shape of a parameter: its hint, unless that says nothing, and then what its documentation
says. -/
def resolve (t : Declarations) (hint documented : Option Expr) : HintM Shape := do
  let own ← match hint with
    | some e => t.shapeOf e
    | none => pure .unknown
  match own with
  | .unknown =>
    match documented with
    | some e => t.shapeOf e
    | none => pure .unknown
  | s => pure s

end Declarations

end Exemplar
