import Exemplar.Machine.Attribute
import Exemplar.Machine.Item
import Exemplar.Machine.Measure

/-
  Whether a value is an instance of a class, or a class extends another one, as programs ask for it:
  a class may answer in its own way, several classes may stand in a tuple, and what is no class may
  pass for one by its bases.

  What patterns ask of a value: its items if it is a sequence, the values of keys if it is a
  mapping, and parts of it if it is of a class. A part that is missing is a mismatch and no error.
-/

namespace Exemplar.Machine.Instance

def notClasses : String := "isinstance() arg 2 must be a type, a tuple of types, or a union"

/-- How deep tuples of classes may nest. -/
def depth : Nat := 900

/-- What passes for a class has its bases in a tuple. -/
def bases? (e : Engine) (v : Value) : Exec (Option (List Value)) := do
  match ← Attribute.get? e v "__bases__" with
  | some (.tuple items) => pure (some items)
  | _ => pure none

/-- Whether what passes for a class extends another one. -/
def descends (e : Engine) : Nat → Value → Value → Exec Bool
  | 0, _, _ => Exec.raise "RecursionError" "maximum recursion depth exceeded"
  | n + 1, c, t => do
    if c.same t then return true
    match ← bases? e c with
    | none => pure false
    | some items => items.anyM fun b => descends e n b t

/-- The class that a value says to be of, if that is another one than its type. -/
def claimed? (e : Engine) (v : Value) : Exec (Option Value) := do
  match ← Attribute.get? e v "__class__" with
  | none => pure none
  | some c => if c.same (← Typing.of v) then pure none else pure (some c)

/-- Whether a value is of a class, as types answer it. -/
def plainly (e : Engine) (v t : Value) : Exec Bool := do
  if ← Typing.isType t then
    if ← Typing.isOf v t then return true
    match ← claimed? e v with
    | none => pure false
    | some c => if ← Typing.isType c then Typing.extends? c t else pure false
  else
    if (← bases? e t).isNone then Exec.typeError notClasses
    match ← Attribute.get? e v "__class__" with
    | none => pure false
    | some c => descends e depth c t

/-- Whether a class extends another one, as types answer it. -/
def plainlyExtends (e : Engine) (c t : Value) : Exec Bool := do
  if (← Typing.isType c) && (← Typing.isType t) then return ← Typing.extends? c t
  if (← bases? e c).isNone then Exec.typeError "issubclass() arg 1 must be a class"
  let isUnion := match t with
    | .union _ => true
    | _ => false
  if !isUnion && (← bases? e t).isNone then
    Exec.typeError "issubclass() arg 2 must be a class, a tuple of classes, or a union"
  descends e depth c t

/-- Whether the class of a class is the plain one. -/
def isPlainClass (t : Value) : Exec Bool := do
  match ← Typing.of t with
  | .kind .type => pure true
  | _ => pure false

/-- What a class, or what stands for several, answers by a method of its own. -/
def answered? (e : Engine) (t : Value) (method : String) (v : Value) : Exec (Option Bool) := do
  match ← Typing.callSpecial? e t method [v] with
  | none => pure none
  | some r => some <$> Measure.truth e r

/-- Whether a value is of a class or of one of several. -/
def isOf (e : Engine) : Nat → Value → Value → Exec Bool
  | 0, _, _ => Exec.raise "RecursionError" "maximum recursion depth exceeded in __instancecheck__"
  | n + 1, v, t => do
    if t.same (← Typing.of v) then return true
    if ← isPlainClass t then return ← plainly e v t
    match ← Typing.unboxed t with
    | .tuple items => items.anyM fun c => isOf e n v c
    | _ =>
      match ← answered? e t "__instancecheck__" v with
      | some b => pure b
      | none => plainly e v t

/-- Whether a class extends another one or one of several. -/
def extends? (e : Engine) : Nat → Value → Value → Exec Bool
  | 0, _, _ => Exec.raise "RecursionError" "maximum recursion depth exceeded in __subclasscheck__"
  | n + 1, c, t => do
    if ← isPlainClass t then
      if c.same t then return true
      return ← plainlyExtends e c t
    match ← Typing.unboxed t with
    | .tuple items => items.anyM fun d => extends? e n c d
    | _ =>
      match ← answered? e t "__subclasscheck__" c with
      | some b => pure b
      | none => plainlyExtends e c t

/-! ### Types with arguments and alternatives -/

/-- A type with arguments cannot be asked. -/
def refuseGeneric {α : Type} (function : String) (within : Bool) : Exec α :=
  Exec.typeError (function ++ "() argument 2 cannot " ++ (if within then "contain" else "be") ++
    " a parameterized generic")

/-- Asks one of several types after another, none of which may have arguments. -/
def amongAll (function : String) (members : List Value) (ask : Value → Exec Bool) : Exec Bool := do
  let isGeneric (m : Value) : Bool := match m with
    | .generic _ _ => true
    | _ => false
  if members.any isGeneric then refuseGeneric function true
  members.anyM ask

end Exemplar.Machine.Instance

namespace Exemplar.Machine.Match

/-- Whether a value is a sequence for patterns: texts and bytes are not. -/
def isSequence (v : Value) : Exec Bool := do
  match ← Typing.solid (← Typing.of v) with
  | .list | .tuple | .range => pure true
  | _ => pure false

/-- Whether a value is a mapping for patterns. -/
def isMapping (v : Value) : Exec Bool := do
  match ← Typing.solid (← Typing.of v) with
  | .dict | .mappingProxy => pure true
  | _ => pure false

/-- The items of a sequence of the right length; where a rest may stand in the middle, it is a list
of its own. -/
def sequence (e : Engine) (v : Value) (before : Nat) (after : Option Nat) :
    Exec (Option (List Value)) := do
  if !(← isSequence v) then return none
  let n ← Measure.size e v
  match after with
  | none =>
    if n != before then return none
    return some (← Iterate.unpack e v before)
  | some after =>
    if n < before + after then return none
    return some (← Iterate.unpackAround e v before after)

/-- Whether a value is a mapping with so many entries at least. -/
def mapping (e : Engine) (v : Value) (least : Nat) : Exec Bool := do
  if !(← isMapping v) then return false
  if least == 0 then return true
  return least ≤ (← Measure.size e v)

/-- The values that a mapping has for keys, unless one is missing. -/
def valuesOf (e : Engine) (v : Value) (keys : List Value) : Exec (Option (List Value)) := do
  let missing ← Exec.newObject { cls := .kind .object }
  let get ← Attribute.get e v "get"
  let rec loop (seen : List Value) : List Value → Exec (Option (List Value))
    | [] => pure (some [])
    | k :: ks => do
      if ← seen.anyM fun s => Compare.equal e s k then
        Exec.valueError ("mapping pattern checks duplicate key (" ++ (← e.quoted k) ++ ")")
      let w ← e.call get [k, missing] []
      if w.same missing then return none
      return (← loop (k :: seen) ks).map (w :: ·)
  loop [] keys

/-- A dictionary of the entries of a mapping whose keys are not among some. -/
def rest (e : Engine) (v : Value) (keys : List Value) : Exec Value := do
  let d ← Exec.new .dict (.dict {})
  if let .object a := d then
    Mapping.update e a v
    for k in keys do
      Item.erase e d k
  pure d

/-! ### Classes -/

/-- Types whose values match a single pattern by themselves. -/
def matchesItself (t : Value) : Exec Bool := do
  match ← Typing.solid t with
  | .bool | .bytearray | .bytes | .dict | .float | .frozenset | .int | .list | .set | .str
  | .tuple => pure true
  | _ => pure false

/-- The names of the parts that a class has by place, or nothing if it does not say. -/
def partNames? (e : Engine) (t : Value) : Exec (Option (List Value)) := do
  match ← Attribute.get? e t "__match_args__" with
  | none => pure none
  | some (.tuple names) => pure (some names)
  | some w =>
    Exec.typeError ((← Typing.name t) ++ ".__match_args__ must be a tuple (got " ++
      (← Typing.word w) ++ ")")

/-- The attributes of a value by names that are asked for once each, unless one is missing. -/
def attributes (e : Engine) (v t : Value) (seen : List String) :
    List String → Exec (Option (List Value))
  | [] => pure (some [])
  | n :: ns => do
    if seen.contains n then
      Exec.typeError ((← Typing.name t) ++ "() got multiple sub-patterns for attribute " ++
        Text.quote n)
    match ← Attribute.get? e v n with
    | none => pure none
    | some w => return (← attributes e v t (n :: seen) ns).map (w :: ·)

/-- The parts of a value of a class: so many by place, and some by name. -/
def parts (e : Engine) (v t : Value) (positional : Nat) (names : List String) :
    Exec (Option (List Value)) := do
  if !(← Typing.isType t) then Exec.typeError "called match pattern must be a class"
  if !(← Instance.isOf e Instance.depth v t) then return none
  let given ← partNames? e t
  let whole ← if given.isNone then matchesItself t else pure false
  let known := given.getD []
  let allowed := if whole then 1 else known.length
  if positional != 0 && allowed < positional then
    Exec.typeError ((← Typing.name t) ++ "() accepts " ++ toString allowed ++
      " positional sub-pattern" ++ (if allowed == 1 then "" else "s") ++ " (" ++
      toString positional ++ " given)")
  if whole && positional == 1 then
    return (← attributes e v t [] names).map (v :: ·)
  let byPlace ← (known.take positional).mapM fun n => do
    match n with
    | .str s => pure s
    | w =>
      Exec.typeError ("__match_args__ elements must be strings (got " ++ (← Typing.word w) ++ ")")
  attributes e v t [] (byPlace ++ names)

end Exemplar.Machine.Match
