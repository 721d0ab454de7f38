import Exemplar.Machine.Codec
import Exemplar.Machine.Construct.Incident
import Exemplar.Machine.Construct.Number
import Exemplar.Machine.Method.OnKeyed

/-
  Texts, bytes and collections from what yields their items, and iterators over several others.

  Making values of the types that are there without a declaration, and of classes that extend them,
  in two steps: a value is made, then it is set up. A value that cannot change is complete when it
  is made.
-/

namespace Exemplar.Machine.Construct

/-! ### Texts and bytes -/

/-- An argument that names an encoding or a rule for errors. -/
def codecArgument (p : Passed) (name : String) (v? : Option Value) : Exec (Option String) := do
  match v? with
  | none => pure none
  | some v => some <$> p.text ("argument '" ++ name ++ "'") v

def str (e : Engine) (p : Passed) : Exec String := do
  let given ← p.fill ["object", "encoding", "errors"] 0 3
  let encoding ← codecArgument p "encoding" (given.getD 1 none)
  let rule ← codecArgument p "errors" (given.getD 2 none)
  match given.getD 0 none with
  | none => pure ""
  | some v =>
    if encoding.isNone && rule.isNone then Show.str e v
    else match ← Typing.unboxed v, ← Compare.bytes? v with
      | .str _, _ => Exec.typeError "decoding str is not supported"
      | _, some b => Codec.decode (encoding.getD "utf-8") (rule.getD "strict") b
      | _, none =>
        Exec.typeError ("decoding to str: need a bytes-like object, " ++ (← Typing.word v) ++
          " found")

/-- Bytes, or how many zeros. -/
inductive Filling
  | zeros (n : Nat)
  | bytes (b : List UInt8)

/-- As many zeros as a value says. -/
def zerosOf (e : Engine) (v : Value) : Exec Filling := do
  let n ← Measure.sizedIndex e "OverflowError" v
  if n < 0 then Exec.valueError "negative count"
  Operate.reserve n.toNat
  pure (.zeros n.toNat)

/-- The bytes that a value yields. `word` is what messages call a byte, `typeName` the result. -/
def yielded (e : Engine) (word typeName : String) (v : Value) : Exec Filling := do
  match ← Iterate.iter? e v with
  | some _ => return .bytes (← (← Iterate.collect e v).mapM (Item.byteOf e word))
  | none => Exec.typeError ("cannot convert '" ++ (← Typing.word v) ++ "' object to " ++ typeName)

/-- The bytes that arguments come to. -/
def filling (e : Engine) (changing : Bool) (p : Passed) : Exec Filling := do
  let given ← p.fill ["source", "encoding", "errors"] 0 3
  let encoding ← codecArgument p "encoding" (given.getD 1 none)
  let rule ← codecArgument p "errors" (given.getD 2 none)
  let withoutText : Exec Filling :=
    Exec.typeError ((if encoding.isSome then "encoding" else "errors") ++
      " without a string argument")
  match given.getD 0 none with
  | none => if encoding.isSome || rule.isSome then withoutText else pure (.bytes [])
  | some v =>
    let text? ← match ← Typing.unboxed v with
      | .str s => pure (some s)
      | _ => pure none
    match text?, encoding with
    | some s, some n => return .bytes (← Codec.encode n (rule.getD "strict") s)
    | none, some _ => withoutText
    | some _, none =>
      if changing || rule.isSome then Exec.typeError "string argument without an encoding"
      else
        match ← Typing.callProgram? e v "__bytes__" [] with
        | some w => bytesFrom w
        | none => Exec.typeError "string argument without an encoding"
    | none, none =>
      if rule.isSome then return ← withoutText
      if !changing then
        if let some w ← Typing.callProgram? e v "__bytes__" [] then return ← bytesFrom w
      if ← Item.isIndex v then zerosOf e v
      else match ← Compare.bytes? v with
        | some b => pure (.bytes b)
        | none =>
          if changing then yielded e "byte" "bytearray" v else yielded e "bytes" "bytes" v
where
  bytesFrom (w : Value) : Exec Filling := do
    match ← Typing.unboxed w with
    | .bytes b => pure (.bytes b)
    | _ => Exec.typeError ("__bytes__ returned non-bytes (type " ++ (← Typing.word w) ++ ")")

/-! ### Ranges and slices -/

def range (e : Engine) (p : Passed) : Exec Value := do
  p.between 1 3
  match ← p.args.mapM (Measure.index e) with
  | [stop] => pure (.range 0 stop 1)
  | [start, stop] => pure (.range start stop 1)
  | [start, stop, step] =>
    if step == 0 then Exec.valueError "range() arg 3 must not be zero"
    pure (.range start stop step)
  | _ => pure (.range 0 0 1)

def slice (p : Passed) : Exec Value := do
  p.between 1 3
  match p.args with
  | [stop] => pure (.slice .none stop .none)
  | _ => pure (.slice (p.arg 0) (p.arg 1) (p.arg 2))

/-! ### Iterators -/

def enumerate (e : Engine) (p : Passed) : Exec Iterator := do
  let given ← p.fill ["iterable", "start"] 1 2
  let start ← match given.getD 1 none with
    | some v => Measure.index e v
    | none => pure 0
  return .numbered (← Iterate.iter e ((given.getD 0 none).getD .none)) start

def zip (e : Engine) (p : Passed) : Exec Iterator := do
  let given ← Passed.fill { p with args := [] } ["strict"] 0 0
  let strict ← match given.getD 0 none with
    | some v => Measure.truth e v
    | none => pure false
  return .zipped (← p.args.mapM (Iterate.iter e)) strict

def map (e : Engine) (p : Passed) : Exec Iterator := do
  p.byPlace
  match p.args with
  | f :: v :: vs => return .mapped f (← (v :: vs).mapM (Iterate.iter e))
  | _ => Exec.typeError "map() must have at least two arguments."

def filter (e : Engine) (p : Passed) : Exec Iterator := do
  p.between 2 2
  return .filtered (p.arg 0) (← Iterate.iter e (p.arg 1))

/-- The items of a sequence from the last to the first, or what its type says of that. -/
def reversed (e : Engine) (p : Passed) : Exec (Except Value Iterator) := do
  p.between 1 1
  let v := p.arg 0
  let refuse : Exec (Except Value Iterator) := do
    Exec.typeError ("'" ++ (← Typing.word v) ++ "' object is not reversible")
  match ← Typing.special? v "__reversed__" with
  | some .none => refuse
  | some _ => return .error ((← Typing.callSpecial? e v "__reversed__" []).getD .none)
  | none =>
    match ← Typing.unboxed v, ← Exec.data? v with
    | .str s, _ => pure (.ok (.values (Iterate.characters s).reverse))
    | .tuple items, _ => pure (.ok (.values items.reverse))
    | .bytes b, _ => pure (.ok (.values (Iterate.byteValues b).reverse))
    | _, some (.bytearray _) | _, some (.zeros _) =>
      return .ok (.values (Iterate.byteValues (← bytesOf v)).reverse)
    | _, _ =>
      if ← Iterate.isSequence v then
        return .ok (.sequenceBackward v ((← Measure.size e v : Nat) - 1))
      else refuse
where
  bytesOf (v : Value) : Exec (List UInt8) := return (← Compare.bytes? v).getD []

/-! ### What stands in classes -/

def property (e : Engine) (p : Passed) : Exec Property := do
  let given ← p.fill ["fget", "fset", "fdel", "doc"] 0 4
  let part (i : Nat) : Value := (given.getD i none).getD .none
  let doc ← if (part 3).isNone && !(part 0).isNone then
      orNone (← Attribute.get? e (part 0) "__doc__")
    else pure (part 3)
  pure { get := part 0, set := part 1, erase := part 2, doc := doc }
where
  orNone (v : Option Value) : Exec Value := pure (v.getD .none)

/-- The type in which what a class extends is searched for a value. -/
def searchedFor (t v : Value) : Exec Value := do
  if ← Typing.isType v then
    if ← Typing.extends? v t then return v
  let own ← Typing.of v
  if ← Typing.extends? own t then pure own
  else Exec.typeError "super(type, obj): obj must be an instance or subtype of type"

def super (p : Passed) : Exec Data := do
  p.between 0 2
  match p.args with
  | [] => Exec.raise "RuntimeError" "super(): no arguments"
  | t :: rest =>
    if !(← Typing.isType t) then
      Exec.typeError ("super() argument 1 must be a type, not " ++ (← Passed.word t))
    match rest with
    | [] | [.none] => pure (.super t .none .none)
    | v :: _ => return .super t v (← searchedFor t v)

/-! ## Two steps -/

open Exemplar.Machine.Construct.Incident

/-! ### The type of all things -/

/-- What a class declares for a name, if a program and not the type of all things declares it. -/
def overrides (cls : Value) (name : String) : Exec Bool := do
  match ← Typing.declared? cls name with
  | some (.native .object _) | none => pure false
  | some _ => pure true

/-- A value of which nothing but its class is known. Arguments are refused unless the class says
what to do with them. -/
def thing (cls : Value) (args : List Value) (named : Fields) : Exec Value := do
  if !args.isEmpty || !named.isEmpty then
    if ← overrides cls "__new__" then
      Exec.typeError "object.__new__() takes exactly one argument (the type to instantiate)"
    if !(← overrides cls "__init__") then
      Exec.typeError ((← Typing.name cls) ++ "() takes no arguments")
  match ← Typing.class? cls with
  | some c =>
    Exec.newObject { cls := cls, names := if c.hasNames then .own [] else .absent }
  | none => Exec.newObject { cls := cls }

/-- Sets up a value of which nothing is to be set up. -/
def setUpThing (v : Value) (args : List Value) (named : Fields) : Exec Unit := do
  if !args.isEmpty || !named.isEmpty then
    let cls ← Typing.of v
    if ← overrides cls "__init__" then
      Exec.typeError "object.__init__() takes exactly one argument (the instance to initialize)"
    if !(← overrides cls "__new__") then
      Exec.typeError ((← Typing.name cls) ++
        ".__init__() takes exactly one argument (the instance to initialize)")

/-! ### Making -/

/-- A value that cannot change, as one of a class. -/
def boxed (cls v : Value) : Exec Value := do
  match cls with
  | .kind _ => pure v
  | cls => holding cls (.boxed v)

def iterating (cls : Value) (i : Iterator) : Exec Value := holding cls (.iterator i)

/-- The members of a new frozen set; one that is frozen already is taken as it is. -/
def frozen (e : Engine) (cls : Value) (p : Passed) : Exec Value := do
  p.between 0 1
  match p.arg? 0 with
  | none => holding cls (.set {})
  | some v =>
    match cls, ← Typing.of v with
    | .kind _, .kind .frozenset => pure v
    | _, _ => do holding cls (.set (← Bag.gather e v))

/-- The name that a type whose values are not made by calling it has in refusals. -/
def singleWord : Kind → Option String
  | .none => some "NoneType"
  | .ellipsis => some "EllipsisType"
  | .notImplemented => some "NotImplementedType"
  | _ => none

/-- Makes a value of a class by the rule of a type that it extends. -/
def make (e : Engine) (k : Kind) (cls : Value) (args : List Value) (named : Fields) :
    Exec Value := do
  let p : Passed := ⟨k.word, k.word, args, named⟩
  match k with
  | .object => thing cls args named
  | .bool => bool e p
  | .int => do boxed cls (← int e p)
  | .float => do boxed cls (← float e p)
  | .complex => do boxed cls (← complex e p)
  | .str => do boxed cls (.str (← str e p))
  | .bytes =>
    match ← filling e false p with
    | .zeros n => boxed cls (.bytes (List.replicate n 0))
    | .bytes b => boxed cls (.bytes b)
  | .tuple =>
    p.between 0 1
    match p.arg? 0 with
    | none => boxed cls (.tuple [])
    | some v =>
      match cls, v with
      | .kind _, .tuple _ => pure v
      | _, _ => do boxed cls (.tuple (← Iterate.collect e v))
  | .bytearray => holding cls (.bytearray #[])
  | .list => holding cls (.list #[])
  | .dict => holding cls (.dict {})
  | .set => holding cls (.set {})
  | .frozenset => frozen e cls p
  | .range => range e p
  | .slice => slice p
  | .enumerate => do iterating cls (← enumerate e p)
  | .zip => do iterating cls (← zip e p)
  | .map => do iterating cls (← map e p)
  | .filter => do iterating cls (← filter e p)
  | .reversed =>
    match ← reversed e p with
    | .ok i => iterating cls i
    | .error v => pure v
  | .property => holding cls (.property {})
  | .staticMethod | .classMethod => holding cls (.wrapper .none)
  | .super => holding cls (.super .none .none .none)
  | .stub => Exec.newObject { cls := cls, names := .own [] }
  | .module => Exec.newObject { cls := cls, names := .own [], data := .module "" }
  | .exception _ => Incident.make e (.kind k) cls args named
  | k =>
    match singleWord k with
    | some word =>
      if args.isEmpty && named.isEmpty then
        pure (match k with
          | .ellipsis => .ellipsis
          | .notImplemented => .notImplemented
          | _ => .none)
      else Exec.typeError (word ++ " takes no arguments")
    | none => Exec.typeError ("cannot create '" ++ k.word ++ "' instances")

/-! ### Setting up -/

/-- The name of a stand-in from what it is made with. -/
def standinName (args : List Value) (named : Fields) : Exec Value := do
  let front := "StubModule.__init__() "
  if 1 < args.length then
    Exec.typeError (front ++ "takes from 1 to 2 positional arguments but " ++
      toString (args.length + 1) ++ " were given")
  for (n, _) in named do
    if n != "name" then
      if n == "self" then
        Exec.typeError (front ++ "got multiple values for argument 'self'")
      Exec.typeError (front ++ "got an unexpected keyword argument '" ++ n ++ "'")
  match args, named.lookup "name" with
  | [_], some _ => Exec.typeError (front ++ "got multiple values for argument 'name'")
  | [v], none => pure v
  | _, some v => pure v
  | _, none => pure (.str "stub")

/-- Sets up a value by the rule of a type that it is of. -/
def setUp (e : Engine) (k : Kind) (v : Value) (args : List Value) (named : Fields) :
    Exec Unit := do
  let p : Passed := ⟨k.word, k.word, args, named⟩
  match k, v with
  | .object, _ => setUpThing v args named
  | .list, .object a =>
    p.between 0 1
    if let some w := p.arg? 0 then
      let items ← Iterate.array e w
      Exec.setData a (.list items)
    else Exec.setData a (.list #[])
  | .dict, .object a => Method.OnDict.update e a p
  | .set, .object a =>
    p.between 0 1
    Exec.setData a (.set {})
    if let some w := p.arg? 0 then Bag.update e a w
  | .bytearray, .object a =>
    match ← filling e true p with
    | .zeros n => Exec.setData a (.zeros n)
    | .bytes b => Exec.setData a (.bytearray b.toArray)
  | .property, .object a =>
    let old ← Exec.dataAt a
    let made ← property e p
    let name := match old with
      | .property q => q.name
      | _ => none
    Exec.setData a (.property { made with name := name })
  | .staticMethod, .object a | .classMethod, .object a =>
    p.between 1 1
    Exec.setData a (.wrapper (p.arg 0))
  | .super, .object a => do Exec.setData a (← super p)
  | .stub, .object a => do Typing.putName a "_name" (← standinName args named)
  | .module, .object a =>
    let given ← p.fill ["name", "doc"] 1 2
    let name ← p.text "argument 'name'" ((given.getD 0 none).getD .none)
    Exec.setData a (.module name)
    for (n, w) in [("__name__", .str name), ("__doc__", (given.getD 1 none).getD .none),
        ("__package__", .none), ("__loader__", .none), ("__spec__", .none)] do
      Typing.putName a n w
  | .type, _ => pure ()
  | .exception n, v => Incident.setUp e n v args named
  | _, _ => setUpThing v args named

/-- The first of the types that a type extends, itself included, that says how to set values up. -/
def setUpKind (k : Kind) : Kind := (k.lineage.find? fun j => j.slots.contains "__init__").getD k

/-- Calls a type that is there without a declaration; making types is not its part. -/
def ofKind (e : Engine) (k : Kind) (args : List Value) (named : Fields) : Exec Value := do
  let v ← make e k (.kind k) args named
  match k with
  | .object | .bool | .int | .float | .complex | .str | .bytes | .tuple | .frozenset | .range
  | .slice | .enumerate | .zip | .map | .filter | .reversed => pure v
  | .exception _ =>
    match ← Typing.of v with
    | .kind (.exception n) =>
      Incident.setUp e n v args named
      pure v
    | _ => pure v
  | k =>
    if (setUpKind k).slots.contains "__init__" && (singleWord k).isNone then
      setUp e (setUpKind k) v args named
    pure v

end Exemplar.Machine.Construct
