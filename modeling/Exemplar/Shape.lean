import Exemplar.Datum

/-
  Shapes: what is known about the values that a parameter takes. A shape is in normal form when no
  name in it is unresolved, unions list at least two shapes that are no unions, and choices list
  at least one scalar.

  Callables: the functions of a file that can be called, with the shapes of their parameters and
  the characters of the text that declare them.
-/

namespace Exemplar

/-- The kinds of plain values. -/
inductive Plain
  | text | number | boolean
  deriving DecidableEq

def Plain.word : Plain → String
  | .text => "string"
  | .number => "number"
  | .boolean => "boolean"

inductive Shape
  | plain (kind : Plain)
  | none
  /-- One of the listed scalars. -/
  | choice (values : List Scalar)
  | list (element : Shape)
  /-- One shape for each place. -/
  | tuple (elements : List Shape)
  | mapping (key value : Shape)
  /-- Named fields in the order of their declaration. -/
  | record (fields : List (String × Shape))
  | union (alternatives : List Shape)
  /-- A name that awaits its declaration. -/
  | named (name : String)
  | unknown
  deriving Inhabited

namespace Shape

/-- The alternatives of a union; any other shape is its only alternative. -/
def alternatives : Shape → List Shape
  | .union as => as
  | s => [s]

/-- The union of shapes: unions among them lend their alternatives, a single alternative stands for
itself, and no alternative is an unknown shape. -/
def unite (shapes : List Shape) : Shape :=
  match shapes.flatMap alternatives with
  | [] => .unknown
  | [s] => s
  | ss => .union ss

mutual

/-- Whether a name somewhere in the shape is unresolved. -/
def hasName : Shape → Bool
  | .named _ => true
  | .list e => hasName e
  | .tuple es => anyHasName es
  | .mapping k v => hasName k || hasName v
  | .record fs => anyFieldHasName fs
  | .union as => anyHasName as
  | _ => false

def anyHasName : List Shape → Bool
  | [] => false
  | s :: ss => hasName s || anyHasName ss

def anyFieldHasName : List (String × Shape) → Bool
  | [] => false
  | (_, s) :: fs => hasName s || anyFieldHasName fs

end

mutual

/-- The shape in a compact form for people. -/
def describe : Shape → String
  | .plain k => k.word
  | .none => "None"
  | .choice vs => "Literal[" ++ ", ".intercalate (vs.map Scalar.quoted) ++ "]"
  | .list e => "list[" ++ describe e ++ "]"
  | .tuple es => "tuple[" ++ ", ".intercalate (describeAll es) ++ "]"
  | .mapping k v => "dict[" ++ describe k ++ ", " ++ describe v ++ "]"
  | .record fs => "\x7b" ++ ", ".intercalate (describeFields fs) ++ "\x7d"
  | .union as => " | ".intercalate (describeAll as)
  | .named n => "<ref " ++ n ++ ">"
  | .unknown => "unknown"

def describeAll : List Shape → List String
  | [] => []
  | s :: ss => describe s :: describeAll ss

def describeFields : List (String × Shape) → List String
  | [] => []
  | (n, s) :: fs => (n ++ ": " ++ describe s) :: describeFields fs

end

mutual

/-- Whether some choice in the shape lists an integer with too many digits to be written. -/
def holdsLong : Shape → Bool
  | .choice vs => vs.any Scalar.isLong
  | .list e => holdsLong e
  | .tuple es => anyHoldsLong es
  | .mapping k v => holdsLong k || holdsLong v
  | .record fs => anyFieldHoldsLong fs
  | .union as => anyHoldsLong as
  | _ => false

def anyHoldsLong : List Shape → Bool
  | [] => false
  | s :: ss => holdsLong s || anyHoldsLong ss

def anyFieldHoldsLong : List (String × Shape) → Bool
  | [] => false
  | (_, s) :: fs => holdsLong s || anyFieldHoldsLong fs

end

/-- The compact form, unless an integer in it is too long. -/
def text (s : Shape) : Except Raised String :=
  if s.holdsLong then .error Decimal.longInteger else .ok s.describe

end Shape

end Exemplar

namespace Exemplar

/-- A parameter that takes one argument, by its place or only by its name. -/
structure ShapedParameter where
  name : String
  shape : Shape
  keywordOnly : Bool := false
  deriving Inhabited

/-- A function that a file declares, and the character offsets of its declaration. -/
structure Callable where
  name : String
  parameters : List ShapedParameter
  anchor : Nat := 0
  stop : Nat := 0
  isAsync : Bool := false
  deriving Inhabited

/-- Parameters with their shapes as people read them; a star parts off those passed by name. -/
def describeParameters (ps : List ShapedParameter) : String :=
  let rec parts (before : Bool) : List ShapedParameter → List String
    | [] => []
    | p :: ps =>
      let own := p.name ++ ": " ++ p.shape.describe
      if p.keywordOnly && !before then "*" :: own :: parts p.keywordOnly ps
      else own :: parts p.keywordOnly ps
  ", ".intercalate (parts false ps)

/-- The same, unless an integer in a shape is too long to be written. -/
def parametersText (ps : List ShapedParameter) : Except Raised String :=
  if ps.any (·.shape.holdsLong) then .error Decimal.longInteger else .ok (describeParameters ps)

end Exemplar
