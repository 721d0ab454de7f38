import Exemplar.Machine.Format
import Exemplar.Machine.Item

/-
  Operators. The type of the left operand is asked first, unless that of the right one extends it
  and says something else; a type that has no answer leaves the operands to the other type. Joining
  and repeating sequences comes last.
-/

namespace Exemplar

namespace BinaryOp

/-- The sign of an operator in messages. -/
def sign : BinaryOp → String
  | .add => "+"
  | .sub => "-"
  | .mult => "*"
  | .matMult => "@"
  | .div => "/"
  | .mod => "%"
  | .pow => "** or pow()"
  | .shiftLeft => "<<"
  | .shiftRight => ">>"
  | .bitOr => "|"
  | .bitXor => "^"
  | .bitAnd => "&"
  | .floorDiv => "//"

/-- The sign of an assignment that applies an operator. -/
def updateSign : BinaryOp → String
  | .pow => "**="
  | op => op.sign ++ "="

/-- The word for an operator in the names of methods. -/
def word : BinaryOp → String
  | .add => "add"
  | .sub => "sub"
  | .mult => "mul"
  | .matMult => "matmul"
  | .div => "truediv"
  | .mod => "mod"
  | .pow => "pow"
  | .shiftLeft => "lshift"
  | .shiftRight => "rshift"
  | .bitOr => "or"
  | .bitXor => "xor"
  | .bitAnd => "and"
  | .floorDiv => "floordiv"

/-- All operators. -/
def all : List BinaryOp :=
  [add, sub, mult, matMult, div, mod, pow, shiftLeft, shiftRight, bitOr, bitXor, bitAnd, floorDiv]

end BinaryOp

namespace UnaryOp

def sign : UnaryOp → String
  | .invert => "~"
  | .not => "not"
  | .plus => "+"
  | .minus => "-"

def method : UnaryOp → String
  | .invert => "__invert__"
  | .not => "__not__"
  | .plus => "__pos__"
  | .minus => "__neg__"

end UnaryOp

namespace Machine.Operate

/-! ### Numbers -/

/-- Raises what arithmetic came to. A double that is no number gets an identity of its own. -/
def settle (o : Numeric.Outcome) : Exec Value :=
  match o with
  | .ok (.float x) => Exec.float x
  | .ok v => pure v
  | .error e =>
    if e == Numeric.outOfRange then Exec.raiseArgs e.name [.int 34, .str e.text]
    else Exec.ofRaised e

/-- What numbers of a kind make of an operator. -/
def onNumbers (k : Kind) (op : BinaryOp) (a b : Value) : Exec Value := do
  let v ← Typing.unboxed a
  let w ← Typing.unboxed b
  let answered (o : Option Numeric.Outcome) : Exec Value :=
    match o with
    | some o => settle o
    | none => pure .notImplemented
  match k, Numeric.ofValue? v, Numeric.ofValue? w with
  | .bool, _, _ =>
    match op, v, w with
    | .bitOr, .bool x, .bool y => pure (.bool (x || y))
    | .bitAnd, .bool x, .bool y => pure (.bool (x && y))
    | .bitXor, .bool x, .bool y => pure (.bool (x != y))
    | op, v, w =>
      match v.int?, w.int? with
      | some m, some n => answered (Numeric.intBinary op m n)
      | _, _ => pure .notImplemented
  | .int, some (.int m), some (.int n) => answered (Numeric.intBinary op m n)
  | .int, _, _ => pure .notImplemented
  | .float, some (.complex _ _), _ | .float, _, some (.complex _ _) => pure .notImplemented
  | .float, some m, some n => do
    let x ← Exec.ofExcept (double m)
    let y ← Exec.ofExcept (double n)
    answered (Numeric.floatBinary op x y)
  | .complex, some m, some n => do
    let (a, b) ← Exec.ofExcept m.toComplex
    let (c, d) ← Exec.ofExcept n.toComplex
    answered (Numeric.complexBinary op a b c d)
  | _, _, _ => pure .notImplemented
where
  double : Numeric → Except Raised Binary64
    | .int n => Numeric.toDouble n
    | .float x | .complex x _ => .ok x

/-- Quotient and remainder of numbers of a kind. -/
def divmod (k : Kind) (a b : Value) : Exec Value := do
  match k, Numeric.ofValue? (← Typing.unboxed a), Numeric.ofValue? (← Typing.unboxed b) with
  | .int, some (.int m), some (.int n) =>
    if n == 0 then Exec.raise "ZeroDivisionError" "integer division or modulo by zero"
    pure (.pair (.int (m.fdiv n)) (.int (m.fmod n)))
  | .float, some (.complex _ _), _ | .float, _, some (.complex _ _) => pure .notImplemented
  | .float, some m, some n => do
    let x ← Exec.ofExcept (onNumbers.double m)
    let y ← Exec.ofExcept (onNumbers.double n)
    if y.isZero then Exec.raise "ZeroDivisionError" "float divmod()"
    let (q, r) := Numeric.floatDivMod x y
    return .pair (← Exec.float q) (← Exec.float r)
  | _, _, _ => pure .notImplemented

/-! ### Collections -/

/-- A set like another one. -/
def likeSet (k : Kind) (m : Members) : Exec Value := Exec.new k (.set m)

/-- The members of a set. -/
def set? (v : Value) : Exec (Option (Kind × Members)) := do
  match ← Exec.data? v with
  | some (.set m) => pure (some (if ← Typing.isA v .frozenset then .frozenset else .set, m))
  | _ => pure none

/-- What sets make of an operator. -/
def onSets (e : Engine) (op : BinaryOp) (a b : Value) : Exec Value := do
  match ← set? a, ← set? b with
  | some (k, m), some (_, n) =>
    match op with
    | .bitOr =>
      let copy ← Bag.copy e m
      likeSet k (← if a.same b then pure copy else Bag.merge e copy n)
    | .bitAnd => do likeSet k (← if a.same b then Bag.copy e m else Bag.meet e m n)
    | .sub => do likeSet k (← Bag.remaining e m b)
    | .bitXor => do likeSet k (← Bag.toggle e (← Bag.copy e n) m.entries)
    | _ => pure .notImplemented
  | _, _ => pure .notImplemented

/-- The set of what a view of a dictionary, or anything else, yields. -/
def asSet (e : Engine) (v : Value) : Exec Members := do
  match ← Exec.object? v with
  | some ⟨.kind (.view .keys), _, .view d, _⟩ => do Bag.mergeTable e {} (← Mapping.table d)
  | _ => Bag.gather e v

/-- Whether a value is a view of a dictionary that is like a set. -/
def isSetView (v : Value) : Exec Bool := do
  match ← Typing.of v with
  | .kind (.view .keys) | .kind (.view .items) => pure true
  | _ => pure false

/-- The members that a view shares with what another value yields, in the order of the latter. -/
def viewMeet (e : Engine) (view other : Value) : Exec Members := do
  let it ← Iterate.iter e other
  let items ← Iterate.drain e it (← Exec.fuel) #[]
  items.foldlM (fun m v => do
    if ← Compare.likeSetHas e view v then Bag.add e m v else pure m) {}

/-- What views of dictionaries make of an operator. -/
def onViews (e : Engine) (op : BinaryOp) (a b : Value) : Exec Value := do
  match op with
  | .sub => do
    let m ← asSet e a
    likeSet .set (← match ← Bag.sourceOf b with
      | .members other => Bag.without e m other
      | _ => do Bag.withoutValues e m (← Iterate.collect e b))
  | .bitOr => do
    let s ← likeSet .set (← asSet e a)
    if let .object x := s then Bag.update e x b
    pure s
  | .bitXor => do likeSet .set (← Bag.toggled e (← asSet e a) b)
  | .bitAnd =>
    let (view, other) := if ← isSetView a then (a, b) else (b, a)
    let size (v : Value) : Exec Int := return (← Measure.length? v).getD 0
    match ← set? other with
    | some (.set, m) =>
      if (← size view) ≤ m.used then
        likeSet .set (← Bag.meetValues e m (← Iterate.collect e view))
      else likeSet .set (← viewMeet e view other)
    | _ =>
      if (← isSetView other) && (← size view) < (← size other) then
        likeSet .set (← viewMeet e other view)
      else likeSet .set (← viewMeet e view other)
  | _ => pure .notImplemented

/-- The table of a dictionary. -/
def dict? (v : Value) : Exec (Option Table) := do
  match ← Exec.data? v with
  | some (.dict t) => pure (some t)
  | _ => pure none

/-- What dictionaries make of an operator. -/
def onDicts (e : Engine) (op : BinaryOp) (a b : Value) : Exec Value := do
  match op, ← dict? a, ← dict? b with
  | .bitOr, some s, some _ =>
    let v ← Exec.new .dict (.dict (Mapping.copied s))
    if let .object x := v then Mapping.update e x b
    pure v
  | _, _, _ => pure .notImplemented

/-! ### Types -/

/-- Whether a value can stand in a union of types. -/
def isUnionMember (v : Value) : Exec Bool := do
  match v with
  | .none | .generic _ _ | .union _ => pure true
  | v => Typing.isType v

/-- The members of a union that a value adds. -/
def unionMembers : Value → List Value
  | .union ms => ms
  | .none => [.kind .none]
  | v => [v]

/-- A union of types; members that are equal count once. -/
def unionOf (e : Engine) (ms : List Value) : Exec Value := do
  let ms ← ms.foldlM (fun done m => do
    if ← done.anyM fun d => Compare.equal e d m then pure done else pure (done ++ [m])) []
  match ms with
  | [m] => pure m
  | ms => pure (.union ms)

def onTypes (e : Engine) (op : BinaryOp) (a b : Value) : Exec Value := do
  if op == .bitOr && (← isUnionMember a) && (← isUnionMember b) then
    unionOf e (unionMembers a ++ unionMembers b)
  else pure .notImplemented

/-! ### Sequences -/

/-- Refuses a size that does not fit into the memory. -/
def reserve (size : Nat) : Exec Unit := do
  let limit := (← get).memory.getD (Nat.pow 2 34)
  if limit < size then Exec.raiseArgs "MemoryError" []

/-- The items of a value that can be joined and repeated, with what makes one of such items. -/
inductive Sequence
  | str (s : String)
  | bytes (b : List UInt8)
  | bytearray (b : Array UInt8)
  | tuple (items : List Value)
  | list (items : Array Value)

namespace Sequence

def ofValue? (v : Value) : Exec (Option Sequence) := do
  match ← Typing.unboxed v with
  | .str s => pure (some (.str s))
  | .bytes b => pure (some (.bytes b))
  | .tuple items => pure (some (.tuple items))
  | .object a =>
    match ← Exec.dataAt a with
    | .list items => pure (some (.list items))
    | .bytearray b => pure (some (.bytearray b))
    | .zeros n =>
      reserve n
      pure (some (.bytearray (Array.replicate n 0)))
    | _ => pure none
  | _ => pure none

/-- Items repeated. -/
def repeated {α : Type} (items : Array α) (n : Nat) : Array α :=
  if items.size == 1 then
    match items[0]? with
    | some x => Array.replicate n x
    | none => items
  else n.fold (fun _ _ done => done ++ items) (Array.mkEmpty (items.size * n))

def isBeyondSizes (size n : Nat) : Bool := 0x7fffffffffffffff < size * n

def times (s : Sequence) (n : Int) : Exec Value := do
  let n := n.toNat
  match s with
  | .str s =>
    if isBeyondSizes s.length n then Exec.overflow "repeated string is too long"
    reserve (s.utf8ByteSize * n)
    pure (.str (String.join (List.replicate n s)))
  | .bytes b =>
    if isBeyondSizes b.length n then Exec.overflow "repeated bytes are too long"
    reserve (b.length * n)
    pure (.bytes (List.replicate n b).flatten)
  | .bytearray b =>
    reserve (b.size * n)
    if b.size == 1 && b[0]? == some 0 then Exec.new .bytearray (.zeros n)
    else Exec.new .bytearray (.bytearray (repeated b n))
  | .tuple items =>
    reserve (8 * items.length * n)
    pure (.tuple (List.replicate n items).flatten)
  | .list items =>
    reserve (8 * items.size * n)
    Exec.new .list (.list (repeated items n))

end Sequence

/-- Joins a sequence with what stands behind it. -/
def joined (s : Sequence) (a b : Value) : Exec Value := do
  match s, ← Typing.unboxed b, ← Exec.data? b with
  | .str x, .str y, _ => pure (.str (x ++ y))
  | .tuple x, .tuple y, _ => pure (.tuple (x ++ y))
  | .list x, _, some (.list y) => Exec.new .list (.list (x ++ y))
  | .bytes x, _, _ =>
    match ← Compare.bytes? b with
    | some y => pure (.bytes (x ++ y))
    | none => refuseBytes
  | .bytearray x, _, _ =>
    match ← Compare.bytes? b with
    | some y => Exec.new .bytearray (.bytearray (x ++ y.toArray))
    | none => refuseBytes
  | .str _, _, _ => refuse "str"
  | .tuple _, _, _ => refuse "tuple"
  | .list _, _, _ => refuse "list"
where
  refuse (word : String) : Exec Value := do
    Exec.typeError ("can only concatenate " ++ word ++ " (not \"" ++ (← Typing.word b) ++
      "\") to " ++ word)
  refuseBytes : Exec Value := do
    Exec.typeError ("can't concat " ++ (← Typing.word b) ++ " to " ++ (← Typing.word a))

/-- How often a sequence is repeated. -/
def countOf (e : Engine) (v : Value) : Exec Int := do
  if ← Item.isIndex v then Measure.sizedIndex e "OverflowError" v
  else
    Exec.typeError ("can't multiply sequence by non-int of type '" ++ (← Typing.word v) ++ "'")

/-! ### Asking the types -/

/-- An operation on two operands. -/
inductive Deed
  | op (op : BinaryOp)
  | divmod
  deriving DecidableEq

namespace Deed

def word : Deed → String
  | op o => o.word
  | divmod => "divmod"

def method (d : Deed) : String := "__" ++ d.word ++ "__"

def reflected (d : Deed) : String := "__r" ++ d.word ++ "__"

end Deed

/-- Who answers for the values of a type. -/
inductive Party
  /-- A class of a program. -/
  | program
  | native (k : Kind)
  deriving DecidableEq

/-- The type of a family of types that answer alike. -/
def familyOf (k : Kind) (d : Deed) : Option Kind :=
  match k, d with
  | .int, .op .matMult => none
  | .int, _ => some .int
  | .bool, .op .bitAnd | .bool, .op .bitOr | .bool, .op .bitXor => some .bool
  | .float, .op .shiftLeft | .float, .op .shiftRight | .float, .op .bitAnd | .float, .op .bitOr
  | .float, .op .bitXor | .float, .op .matMult => none
  | .float, _ => some .float
  | .complex, .op .add | .complex, .op .sub | .complex, .op .mult | .complex, .op .div
  | .complex, .op .pow => some .complex
  | .str, .op .mod | .bytes, .op .mod | .bytearray, .op .mod => some k
  | .set, .op op | .frozenset, .op op =>
    if [BinaryOp.sub, .bitAnd, .bitOr, .bitXor].contains op then some .set else none
  | .view .keys, .op op | .view .items, .op op =>
    if [BinaryOp.sub, .bitAnd, .bitOr, .bitXor].contains op then some (.view .keys) else none
  | .dict, .op .bitOr => some .dict
  | .mappingProxy, .op .bitOr => some .mappingProxy
  | .type, .op .bitOr | .generic, .op .bitOr | .union, .op .bitOr => some .type
  | .stub, .op .bitOr => some .stub
  | _, _ => none

/-- Who answers for an operation on values of a type. -/
def partyOf (t : Value) (d : Deed) : Exec (Option Party) := do
  let native (k : Kind) : Option Party := (k.lineage.findSome? fun j => familyOf j d).map .native
  match t with
  | .kind k => pure (native k)
  | t =>
    if (← Typing.ofProgram? t d.method).isSome || (← Typing.ofProgram? t d.reflected).isSome then
      pure (some .program)
    else return (← Typing.lineage t).findSome? fun s =>
      match s with
      | .kind k => native k
      | _ => none

/-- Percent signs in a text or in bytes. -/
def percent (e : Engine) (k : Kind) (a b : Value) : Exec Value := do
  match k, ← Typing.unboxed a, ← Compare.bytes? a with
  | .str, .str s, _ => return .str (String.ofList (← Format.percent e false s.toList b))
  | .str, _, _ | _, _, none => pure .notImplemented
  | k, _, some s =>
    let text ← Format.percent e true (s.map fun x => Char.ofNat x.toNat) b
    let out := text.map fun c => UInt8.ofNat c.toNat
    if k == .bytes then pure (.bytes out) else Exec.new .bytearray (.bytearray out.toArray)

/-- What a type that is there without a declaration makes of an operation. -/
def ofNative (e : Engine) (k : Kind) (d : Deed) (a b : Value) : Exec Value := do
  match k, d with
  | .int, .divmod | .float, .divmod => divmod k a b
  | .bool, .op op | .int, .op op | .float, .op op | .complex, .op op => onNumbers k op a b
  | .str, .op .mod | .bytes, .op .mod | .bytearray, .op .mod => percent e k a b
  | .set, .op op => onSets e op a b
  | .view _, .op op => onViews e op a b
  | .dict, .op op => onDicts e op a b
  | .mappingProxy, .op op =>
    let bare (v : Value) : Exec Value := do
      match ← Exec.data? v with
      | some (.proxy (.object c)) =>
        match ← Exec.dataAt c with
        | .dict _ => pure (.object c)
        | _ => Typing.dictionary c
      | _ => pure v
    onDicts e op (← bare a) (← bare b)
  | .type, .op op => onTypes e op a b
  | .stub, .op _ => pure (if ← Typing.isA a .stub then a else b)
  | _, _ => pure .notImplemented

/-- What a declared method answers, if there is one. -/
def ask (e : Engine) (v : Value) (method : String) (w : Value) : Exec Value := do
  return (← Typing.callSpecial? e v method [w]).getD .notImplemented

/-- Whether the class of the right operand says something else than that of the left one. -/
def isOverridden (e : Engine) (left right : Value) (method : String) : Exec Bool := do
  match ← Typing.declared? right method, ← Typing.declared? left method with
  | none, _ => pure false
  | some _, none => pure true
  | some a, some b => return !(← Compare.equal e a b)

/-- What a class of a program makes of an operation, the class being that of one operand. -/
def ofProgram (e : Engine) (d : Deed) (a b : Value) (t u : Value) (p q : Option Party) :
    Exec Value := do
  let asksRight := !t.same u && q == some .program
  let mut asksRight := asksRight
  if p == some .program then
    if asksRight then
      if ← Typing.extends? u t then
        if ← isOverridden e t u d.reflected then
          let r ← ask e b d.reflected a
          if !r.isNotImplemented then return r
          asksRight := false
    let r ← ask e a d.method b
    if !r.isNotImplemented || t.same u then return r
  if asksRight then ask e b d.reflected a else pure .notImplemented

/-- What the types of two operands make of an operation. -/
def answer (e : Engine) (d : Deed) (a b : Value) : Exec Value := do
  let t ← Typing.of a
  let u ← Typing.of b
  let p ← partyOf t d
  let q ← if t.same u then pure p else partyOf u d
  let asking (party : Party) : Exec Value :=
    match party with
    | .program => ofProgram e d a b t u p q
    | .native k => ofNative e k d a b
  match p, if p == q then none else q with
  | none, none => pure .notImplemented
  | some p, none => asking p
  | none, some q => asking q
  | some p, some q =>
    if ← Typing.extends? u t then
      let r ← asking q
      if r.isNotImplemented then asking p else pure r
    else
      let r ← asking p
      if r.isNotImplemented then asking q else pure r

/-- Refuses operands that an operator does not take. -/
def refuse (sign : String) (a b : Value) : Exec Value := do
  let hint := match sign, a with
    | ">>", .builtin "print" => ". Did you mean \"print(<message>, file=<output_stream>)\"?"
    | _, _ => ""
  Exec.typeError ("unsupported operand type(s) for " ++ sign ++ ": '" ++ (← Typing.word a) ++
    "' and '" ++ (← Typing.word b) ++ "'" ++ hint)

/-- Joining and repeating sequences, the last that an operator is tried as. -/
def onSequences (e : Engine) (op : BinaryOp) (sign : String) (a b : Value) : Exec Value := do
  match op with
  | .add =>
    match ← Sequence.ofValue? a with
    | some s => joined s a b
    | none => refuse sign a b
  | .mult =>
    match ← Sequence.ofValue? a with
    | some s => do s.times (← countOf e b)
    | none =>
      match ← Sequence.ofValue? b with
      | some s => do s.times (← countOf e a)
      | none => refuse sign a b
  | _ => refuse sign a b

/-- Applies an operator; `sign` is what messages call it. -/
def binaryAs (e : Engine) (op : BinaryOp) (sign : String) (a b : Value) : Exec Value := do
  match a, b with
  | .int m, .int n =>
    match Numeric.intBinary op m n with
    | some o => settle o
    | none => refuse sign a b
  | _, _ =>
    let r ← answer e (.op op) a b
    if r.isNotImplemented then onSequences e op sign a b else pure r

def binary (e : Engine) (op : BinaryOp) (a b : Value) : Exec Value := binaryAs e op op.sign a b

/-- Quotient and remainder. -/
def quotient (e : Engine) (a b : Value) : Exec Value := do
  let r ← answer e .divmod a b
  if r.isNotImplemented then refuse "divmod()" a b else pure r

/-- Repeats the items of a list in its place. -/
def repeatList (a : Nat) (n : Int) : Exec Unit := do
  match ← Exec.dataAt a with
  | .list items =>
    reserve (8 * items.size * n.toNat)
    Exec.setData a (.list (Sequence.repeated items n.toNat))
  | .bytearray b =>
    reserve (b.size * n.toNat)
    Exec.setData a (.bytearray (Sequence.repeated b n.toNat))
  | .zeros k => Exec.setData a (.zeros (k * n.toNat))
  | _ => pure ()

/-- Puts items behind those of a list. -/
def extendList (a : Nat) (more : Array Value) : Exec Unit :=
  Exec.modifyData a fun
    | .list items => .list (items ++ more)
    | d => d

/-- What the type of a value that changes in its place makes of an assignment with an operator; a
type without an answer leaves it to the operator. -/
def inPlace (e : Engine) (op : BinaryOp) (a b : Value) : Exec Value := do
  match a with
  | .object x =>
    match ← Exec.dataAt x, op with
    | .list _, .add =>
      extendList x (← Iterate.array e b)
      pure a
    | .list _, .mult | .bytearray _, .mult | .zeros _, .mult =>
      if !(← Item.isIndex b) then return ← refuseCount b
      repeatList x (← countOf e b)
      pure a
    | .bytearray _, .add | .zeros _, .add =>
      match ← Compare.bytes? b with
      | some more =>
        Exec.setData x (.bytearray ((← Item.bytesAt x) ++ more.toArray))
        pure a
      | none =>
        Exec.typeError ("can't concat " ++ (← Typing.word b) ++ " to " ++ (← Typing.word a))
    | .dict _, .bitOr =>
      Mapping.update e x b
      pure a
    | .set _, op =>
      if !(← Typing.isA a .set) || (← set? b).isNone then return .notImplemented
      match op with
      | .bitOr => Bag.update e x b
      | .sub => Bag.takeOut e x b
      | .bitAnd => do Exec.setData x (.set (← Bag.shared e (← Bag.members x) b))
      | .bitXor =>
        if a.same b then Exec.setData x (.set {})
        else Exec.setData x (.set (← Bag.toggled e (← Bag.members x) b))
      | _ => return .notImplemented
      pure a
    | .proxy _, .bitOr =>
      Exec.typeError "'|=' is not supported by mappingproxy; use '|' instead"
    | _, _ => pure .notImplemented
  | _ => pure .notImplemented
where
  refuseCount (v : Value) : Exec Value := do
    Exec.typeError ("can't multiply sequence by non-int of type '" ++ (← Typing.word v) ++ "'")

/-- Whether assigning with an operator to a sequence comes after what the operator gives. -/
def isSequenceUpdate (v : Value) (op : BinaryOp) : Exec Bool := do
  match ← Exec.data? v with
  | some (.list _) | some (.bytearray _) | some (.zeros _) => pure (op == .add || op == .mult)
  | _ => pure false

/-- Updates a value by an operator; lists, sets and dictionaries change in their place. -/
def update (e : Engine) (op : BinaryOp) (a b : Value) : Exec Value := do
  match a, b with
  | .int _, .int _ => binaryAs e op op.updateSign a b
  | _, _ =>
    let declared ← match ← Typing.callProgram? e a ("__i" ++ op.word ++ "__") [b] with
      | some r => pure r
      | none =>
        if ← isSequenceUpdate a op then pure .notImplemented else inPlace e op a b
    if !declared.isNotImplemented then return declared
    let r ← answer e (.op op) a b
    if !r.isNotImplemented then return r
    if ← isSequenceUpdate a op then inPlace e op a b
    else onSequences e op op.updateSign a b

/-- Applies an operator to one value. -/
def unary (e : Engine) (op : UnaryOp) (v : Value) : Exec Value := do
  match op, v with
  | .not, v => return .bool !(← Measure.truth e v)
  | .minus, .int n => pure (.int (-n))
  | op, v =>
    match ← Typing.callProgram? e v op.method [] with
    | some w => pure w
    | none =>
      match (Numeric.ofValue? (← Typing.unboxed v)).bind (Numeric.unary op) with
      | some w => pure w
      | none =>
        Exec.typeError ("bad operand type for unary " ++ op.sign ++ ": '" ++ (← Typing.word v) ++
          "'")

end Machine.Operate

end Exemplar
