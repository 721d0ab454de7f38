import Exemplar.Machine.Code
import Exemplar.Machine.Number
import Exemplar.Syntax.Scope.Names
import Exemplar.Syntax.Tree

/-
  Where the variables of a text live. A name that a function binds is its own unless a function
  inside it reads the name: then both share a cell, and so do the functions in between. What a class
  binds is seen by its own statements alone, apart from the class itself.

  Expressions whose value is known beforehand, and the order in which a set of such values is made:
  code that has been stored holds them by the bytes that stand for them.

  Where code stands, and what is kept account of on the way through a text: the scopes still to
  come, which are met in the order in which the text mentions them, and whether the function around
  yields or waits.
-/

namespace Exemplar.Machine.Compile

open Exemplar.Syntax (ScopeTree Marks)

/-- Where the variable that a name stands for in a scope lives. -/
inductive Home
  | own
  /-- Shared with functions inside. -/
  | cell
  /-- Shared with a function around. -/
  | free
  | global
  /-- Among the globals, as a statement says. -/
  | declaredGlobal
  deriving DecidableEq

/-- A scope with the home of each of its names, the names of the cells that it makes and of those
that it takes from around, and the scopes inside it. -/
inductive Scope
  | mk (frame : Syntax.Frame) (homes : List (String × Home)) (cells free : List String)
      (inner : List Scope)

instance : Inhabited Scope := ⟨.mk .file [] [] [] []⟩

namespace Scope

def frame : Scope → Syntax.Frame
  | mk f _ _ _ _ => f

def homes : Scope → List (String × Home)
  | mk _ h _ _ _ => h

def cells : Scope → List String
  | mk _ _ c _ _ => c

def free : Scope → List String
  | mk _ _ _ f _ => f

def inner : Scope → List Scope
  | mk _ _ _ _ i => i

def home (s : Scope) (name : String) : Home := (s.homes.lookup name).getD .global

/-- The place of a name among the cells of a scope. -/
def cellPlace (s : Scope) (name : String) : Nat := ((s.cells ++ s.free).idxOf? name).getD 0

def isFile (s : Scope) : Bool := s.frame == .file

def isClass (s : Scope) : Bool := s.frame == .classBody

end Scope

/-- The name by which functions in the body of a class reach the class. -/
def className : String := "__class__"

/-- Whether the name is the scope's own. -/
def isLocal (m : Marks) : Bool := m.isBound && !m.isGlobal && !m.isNonlocal

/-- The home of a name in a scope that makes some cells; `outer` are the names that functions around
bind. -/
def homeOf (isFunction : Bool) (outer cells : List String) (name : String) (m : Marks) : Home :=
  if m.isGlobal then .declaredGlobal
  else if m.isNonlocal then .free
  else if m.isBound then (if isFunction && cells.contains name then .cell else .own)
  else if outer.contains name then .free
  else .global

def sorted (names : List String) : List String := names.eraseDups.mergeSort (· ≤ ·)

mutual

/-- A scope with all homes settled; `outer` are the names that functions around bind. -/
def settle (outer : List String) : ScopeTree → Scope
  | .mk frame names _ inner =>
    let scopes := settleAll (Syntax.Names.visible frame names outer) inner
    let wanted := scopes.flatMap Scope.free
    let bound := names.filterMap fun (n, m) => if isLocal m then some n else none
    let makes (n : String) : Bool :=
      if frame == .classBody then n == className else frame.isFunction && bound.contains n
    let cells := sorted (wanted.filter makes)
    let homes := names.map fun (n, m) => (n, homeOf frame.isFunction outer cells n m)
    let own := homes.filterMap fun (n, h) => if h == .free then some n else none
    let passed := wanted.filter fun n => !makes n
    .mk frame homes cells (sorted (own ++ passed)) scopes

def settleAll (outer : List String) : List ScopeTree → List Scope
  | [] => []
  | t :: ts => settle outer t :: settleAll outer ts

end

/-- The scopes of a text; one that breaks a rule about names has none. -/
def scopeOf (lazyHints : Bool) (mentions : List Syntax.Mention) : Scope :=
  match Syntax.Names.tree lazyHints mentions with
  | .ok t => settle [] t
  | .error _ => default

/-! ### Known values -/

/-- How many binary digits an integer has. -/
def bitCount (n : Int) : Nat := if n == 0 then 0 else n.natAbs.log2 + 1

/-- How many binary digits the result of an operation on constants may have. -/
def maxBits : Nat := 128

/-- Whether an operation on integers is done beforehand; large numbers are not made. -/
def isModest (op : BinaryOp) (a b : Int) : Bool :=
  match op with
  | .mult => a == 0 || b == 0 || bitCount a + bitCount b ≤ maxBits
  | .pow => a == 0 || b ≤ 0 || bitCount a ≤ maxBits / b.toNat
  | .shiftLeft => a == 0 || b == 0 || (0 < b && b ≤ maxBits && bitCount a + b.toNat ≤ maxBits)
  | _ => true

/-- The value of an operation on numbers that are known, where there is one. -/
def folded? (op : BinaryOp) (a b : Value) : Option Value :=
  let modest := match a.int?, b.int? with
    | some m, some n => isModest op m n
    | _, _ => true
  match Numeric.ofValue? a, Numeric.ofValue? b with
  | some x, some y =>
    if modest then
      match Numeric.binary op x y with
      | some (.ok v) => some v
      | _ => none
    else none
  | _, _ => none

/-- Whether a constant counts as true. -/
def truthOfConstant : Value → Bool
  | .none => false
  | .bool b => b
  | .int n => n != 0
  | .float x => !x.isZero
  | .complex a b => !(a.isZero && b.isZero)
  | .str s => !s.isEmpty
  | .bytes b => !b.isEmpty
  | .tuple items => !items.isEmpty
  | _ => true

mutual

/-- The value of an expression that is made of constants. -/
def constant? : Expr → Option Value
  | .const c => some (.ofConstant c)
  | .unary .not e => (constant? e).map fun v => .bool !(truthOfConstant v)
  | .unary op e => (constant? e).bind fun v => (Numeric.ofValue? v).bind (Numeric.unary op)
  | .binary l op r =>
    match constant? l, constant? r with
    | some a, some b => folded? op a b
    | _, _ => none
  | .tuple es => (constants? es).map .tuple
  | _ => none

def constants? : List Expr → Option (List Value)
  | [] => some []
  | e :: es =>
    match constant? e, constants? es with
    | some v, some vs => some (v :: vs)
    | _, _ => none

end

/-! ### Stored -/

/-- So many bytes of a number, the lowest first. -/
def lowBytes (count n : Nat) : List UInt8 :=
  (List.range count).map fun i => UInt8.ofNat (n / Nat.pow 256 i % 256)

/-- The digits of a number in a large base, the lowest first; `n` is enough of them. -/
def limbs : Nat → Nat → List Nat
  | 0, _ => []
  | n + 1, m => if m == 0 then [] else m % 32768 :: limbs n (m / 32768)

/-- A number as two's complement. -/
def signedBytes (count : Nat) (n : Int) : List UInt8 :=
  lowBytes count (n.emod (Nat.pow 256 count : Nat)).toNat

/-- Small integers are shared by all who use them, which their bytes tell. -/
def isShared (n : Int) : Bool := -5 ≤ n && n ≤ 256

def intBytes (n : Int) : List UInt8 :=
  if -2147483648 ≤ n && n ≤ 2147483647 then
    (if isShared n then 0xe9 else 0x69) :: signedBytes 4 n
  else
    let ds := limbs (n.natAbs.log2 / 15 + 1) n.natAbs
    let count : Int := if n < 0 then -(ds.length : Int) else ds.length
    0x6c :: signedBytes 4 count ++ ds.flatMap (lowBytes 2)

def doubleBytes (x : Binary64) : List UInt8 := lowBytes 8 x.bits.toNat

mutual

/-- The bytes that stand for a value in stored code. -/
def storedBytes : Value → List UInt8
  | .none => [0x4e]
  | .ellipsis => [0x2e]
  | .bool b => [if b then 0x54 else 0x46]
  | .int n => intBytes n
  | .float x => 0x67 :: doubleBytes x
  | .complex a b => 0x79 :: doubleBytes a ++ doubleBytes b
  | .str s => 0x7a :: UInt8.ofNat s.utf8ByteSize :: s.toUTF8.toList
  | .bytes b => (if b.length < 2 then 0xf3 else 0x73) :: lowBytes 4 b.length ++ b
  | .tuple [] => [0xa9, 0]
  | .tuple items => 0x29 :: UInt8.ofNat items.length :: allBytes items
  | _ => []

def allBytes : List Value → List UInt8
  | [] => []
  | v :: vs => storedBytes v ++ allBytes vs

end

/-- Whether bytes come before others or are the same. -/
def bytesLe : List UInt8 → List UInt8 → Bool
  | [], _ => true
  | _ :: _, [] => false
  | a :: as, b :: bs => a < b || (a == b && bytesLe as bs)

mutual

/-- Whether two values that are known are one member of a set. -/
def isOneMember : Value → Value → Bool
  | .tuple as, .tuple bs => areOneMember as bs
  | a, b =>
    match Numeric.ofValue? a, Numeric.ofValue? b with
    | some x, some y => Numeric.equal x y
    | _, _ => a.same b

def areOneMember : List Value → List Value → Bool
  | [], [] => true
  | a :: as, b :: bs => isOneMember a b && areOneMember as bs
  | _, _ => false

end

/-- The members of a set of known values, the first of equal ones counting. -/
def members (vs : List Value) : List Value :=
  (vs.foldl (fun done v => if done.any (isOneMember v) then done else v :: done) []).reverse

/-- The order in which stored code makes a set of known values. -/
def storedOrder (vs : List Value) : List Value :=
  let keyed := (members vs).map fun v => (storedBytes v, v)
  (keyed.mergeSort fun a b => bytesLe a.1 b.1).map (·.2)

/-- Where code stands. -/
structure Standing where
  scope : Scope
  /-- The variables that only the frame sees, the parameters first. -/
  locals : List String := []
  /-- What the qualified names of functions and classes start with. -/
  qualifier : String := ""
  /-- The class that private names belong to. -/
  owner : Option String := none
  /-- Whether hints are not evaluated. -/
  lazyHints : Bool := false
  /-- Whether the code is stored before it runs. -/
  isStored : Bool := false

namespace Standing

/-- A name as the scope knows it: a private name is marked with its class. -/
def mangle (c : Standing) (name : String) : String := Syntax.privateName c.owner name

/-- The place of a name among the cells. -/
def cell (c : Standing) (name : String) : Place :=
  let i := c.scope.cellPlace name
  .cell i (c.scope.cells.length ≤ i)

/-- Where the value of a name is looked for. -/
def place (c : Standing) (name : String) : Place :=
  match c.scope.home name with
  | .declaredGlobal => .global
  | .free => if c.scope.isClass then .nameOrCell (c.scope.cellPlace name) else c.cell name
  | .cell => c.cell name
  | .own =>
    if c.scope.isFile then .global
    else if c.scope.isClass then .name
    else .own (c.locals.idxOf name)
  | .global => if c.scope.isClass then .name else .global

/-- Where a value that is bound to a name is put. -/
def target (c : Standing) (name : String) : Place :=
  match c.place name with
  | .nameOrCell _ => c.cell name
  | p => p

def load (c : Standing) (name : String) : Instr :=
  let name := c.mangle name
  .load (c.place name) name

def store (c : Standing) (name : String) : Instr :=
  let name := c.mangle name
  .store (c.target name) name

def delete (c : Standing) (name : String) : Instr :=
  let name := c.mangle name
  .delete (c.target name) name

/-- The qualified name of what is declared here; a name that a statement makes global stands
alone. -/
def qualify (c : Standing) (name : String) : String :=
  if c.scope.home (c.mangle name) == .declaredGlobal && !c.scope.isFile then name
  else c.qualifier ++ name

/-- The cells that what is inside takes from here. -/
def captured (c : Standing) (inner : Scope) : List Nat := inner.free.map c.scope.cellPlace

/-- The names of a scope that only its own code sees, behind some parameters. -/
def localNames (parameters : List String) (scope : Scope) : List String :=
  parameters ++ scope.homes.filterMap fun (n, h) =>
    if h == .own && !parameters.contains n then some n else none

/-- The standing of the body of a function. -/
def function (c : Standing) (scope : Scope) (qualified : String) (parameters : List String) :
    Standing :=
  { c with
    scope := scope
    locals := localNames parameters scope
    qualifier := qualified ++ ".<locals>." }

/-- The standing of the inside of a comprehension. -/
def comprehension (c : Standing) (scope : Scope) (qualified parameter : String) : Standing :=
  { c with
    scope := scope
    locals := localNames [parameter] scope
    qualifier := qualified ++ "." }

/-- The standing of the body of a class. -/
def classBody (c : Standing) (scope : Scope) (name qualified : String) : Standing :=
  { c with scope := scope, locals := [], qualifier := qualified ++ ".", owner := some name }

def vars (c : Standing) : Variables :=
  { locals := c.locals, cells := c.scope.cells, free := c.scope.free }

/-- The order in which a set of known values is made. -/
def order (c : Standing) (vs : List Value) : List Value :=
  if c.isStored then storedOrder vs else members vs

end Standing

/-- What is kept account of on the way through a text. -/
structure Account where
  /-- The scopes still to come inside the current one. -/
  scopes : List Scope
  yields : Bool := false
  awaits : Bool := false

abbrev Compiling := StateM Account

/-- The scope that begins here. -/
def nextScope : Compiling Scope :=
  modifyGet fun a => (a.scopes.headD default, { a with scopes := a.scopes.drop 1 })

def noteYield : Compiling Unit := modify fun a => { a with yields := true }

def noteAwait : Compiling Unit := modify fun a => { a with awaits := true }

/-- What is compiled inside a scope, and what it does to the function that it is. -/
def inside {α : Type} (scope : Scope) (awaits : Bool) (m : Compiling α) : α × Account :=
  (m.run { scopes := scope.inner, awaits := awaits }).run

/-- What calling a function comes to. -/
def manner (yields awaits : Bool) : Manner :=
  match yields, awaits with
  | false, false => .plain
  | true, false => .generator
  | false, true => .coroutine
  | true, true => .asyncGenerator

/-- The parameters of a function by kind. -/
def signature (c : Standing) (ps : List TreeParameter) : Signature :=
  let named (k : ParameterKind) : List String :=
    (ps.filter (·.kind == k)).map fun p => c.mangle p.name
  { positionalOnly := named .positionalOnly
    ordinary := named .ordinary
    variadic := (named .variadic).head?
    keywordOnly := named .keywordOnly
    keywordVariadic := (named .keywordVariadic).head? }

/-- How many parameters that take arguments by place have a default. -/
def defaultCount (ps : List TreeParameter) : Nat :=
  (ps.filter fun p => p.default.isSome && p.kind != .keywordOnly).length

/-- The parameters with a default that take arguments by name only. -/
def keywordDefaults (c : Standing) (ps : List TreeParameter) : List String :=
  (ps.filter fun p => p.default.isSome && p.kind == .keywordOnly).map fun p => c.mangle p.name

end Exemplar.Machine.Compile
