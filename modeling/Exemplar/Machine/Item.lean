import Exemplar.Machine.Iterate

/-
  Items of containers: by an index from either end, by a slice, and by key; setting and deleting
  them, and whether a container holds a value.

  Putting what other values hold into dictionaries and sets: the entries of a mapping or of a
  sequence of pairs, and the members that anything yields. What was put in before an error stays.
-/

namespace Exemplar.Machine.Item

/-! ### Indices and slices -/

/-- The place of an index that may count from the end. -/
def place? (size : Nat) (i : Int) : Option Nat :=
  let i := if i < 0 then i + size else i
  if 0 ≤ i && i < size then some i.toNat else none

/-- Whether a value can stand for an index. -/
def isIndex (v : Value) : Exec Bool := do
  match v with
  | .int _ | .bool _ => pure true
  | .object _ =>
    if (← Measure.integer? v).isSome then pure true
    else return (← Typing.ofProgram? (← Typing.of v) "__index__").isSome
  | _ => pure false

/-- A slice before it is known how many items there are. -/
structure Cut where
  start : Option Int
  stop : Option Int
  step : Int

/-- A part of a slice: an integer, or nothing. -/
def slicePart (e : Engine) (v : Value) : Exec (Option Int) := do
  match v with
  | .none => pure none
  | v =>
    match ← Measure.index? e v with
    | some n => pure (some n)
    | none =>
      Exec.typeError "slice indices must be integers or None or have an __index__ method"

/-- The parts of a slice. -/
def cutOf (e : Engine) (lower upper step : Value) : Exec Cut := do
  let step := (← slicePart e step).getD 1
  if step == 0 then Exec.valueError "slice step cannot be zero"
  let start ← slicePart e lower
  return ⟨start, ← slicePart e upper, step⟩

/-- Start and stop of a slice of so many items. -/
def Cut.bounds (c : Cut) (size : Nat) : Int × Int :=
  let n : Int := size
  let within (i : Int) : Int :=
    let i := if i < 0 then i + n else i
    if 0 < c.step then max 0 (min n i) else max (-1) (min (n - 1) i)
  let (first, last) : Int × Int := if 0 < c.step then (0, n) else (n - 1, -1)
  (c.start.elim first within, c.stop.elim last within)

/-- The places of a slice of so many items. -/
def Cut.places (c : Cut) (size : Nat) : List Nat :=
  let (start, stop) := c.bounds size
  (List.range (rangeLength start stop c.step)).map fun (k : Nat) => (start + k * c.step).toNat

/-- The items of a slice. -/
def Cut.of {α : Type} (c : Cut) (items : Array α) : Array α :=
  if c.step == 1 then
    let (start, stop) := c.bounds items.size
    items.extract start.toNat stop.toNat
  else ((c.places items.size).filterMap fun i => items[i]?).toArray

/-- Refuses an index of a wrong type. -/
def refuseIndex {α : Type} (what : String) (i : Value) : Exec α := do
  let word ← Typing.word i
  Exec.typeError (
    if what == "string" then "string indices must be integers, not '" ++ word ++ "'"
    else what ++ " indices must be integers or slices, not " ++ word)

/-- The place that a value stands for among so many items; the number of items is taken after the
index is known. -/
def index (e : Engine) (what outside : String) (size : Exec Nat) (i : Value) : Exec Nat := do
  if !(← isIndex i) then refuseIndex what i
  let n ← Measure.sizedIndex e "IndexError" i
  match place? (← size) n with
  | some p => pure p
  | none => Exec.raise "IndexError" outside

/-! ### Types -/

def typeArguments : Value → List Value
  | .tuple items => items
  | v => [v]

/-- A type with arguments. -/
def ofType (e : Engine) (t i : Value) : Exec Value := do
  match t with
  | .kind .type => pure (.generic t (typeArguments i))
  | t =>
    match ← Attribute.get? e t "__class_getitem__" with
    | some (.method cls _ _) => pure (.generic cls (typeArguments i))
    | none | some .none =>
      Exec.typeError ("type '" ++ (← Typing.name t) ++ "' is not subscriptable")
    | some f => e.call f [i] []

/-! ### Getting -/

def refuseGet {α : Type} (c : Value) : Exec α := do
  Exec.typeError ("'" ++ (← Typing.word c) ++ "' object is not subscriptable")

/-- The number of items of a list as it is. -/
def listSize (a : Nat) : Exec Nat := do
  match ← Exec.dataAt a with
  | .list items => pure items.size
  | _ => pure 0

/-- The bytes of an object that may change. -/
def bytesAt (a : Nat) : Exec (Array UInt8) := do
  match ← Exec.dataAt a with
  | .bytearray b => pure b
  | .zeros n => pure (Array.replicate n 0)
  | _ => pure #[]

def bytesSize (a : Nat) : Exec Nat := do
  match ← Exec.dataAt a with
  | .bytearray b => pure b.size
  | .zeros n => pure n
  | _ => pure 0

/-- The value of a key in a dictionary, or what its class gives for a missing one. -/
def ofDict (e : Engine) (c : Value) (a : Nat) (key : Value) : Exec Value := do
  match ← Mapping.get? e a key with
  | some v => pure v
  | none =>
    match ← Typing.callProgram? e c "__missing__" [key] with
    | some v => pure v
    | none => Exec.raiseArgs "KeyError" [key]

/-- The item of a container by the type that is there without a declaration. -/
def plainly (e : Engine) (c i : Value) : Exec Value := do
  match ← Typing.unboxed c, i with
  | .str s, .slice a b st =>
    return .str (String.ofList ((← cutOf e a b st).of s.toList.toArray).toList)
  | .str s, i =>
    let cs := s.toList
    let p ← index e "string" "string index out of range" (pure cs.length) i
    pure (.str (String.singleton (cs.getD p ' ')))
  | .bytes s, .slice a b st => return .bytes ((← cutOf e a b st).of s.toArray).toList
  | .bytes s, i =>
    let p ← index e "byte" "index out of range" (pure s.length) i
    pure (.int (s.getD p 0).toNat)
  | .tuple items, .slice a b st => return .tuple ((← cutOf e a b st).of items.toArray).toList
  | .tuple items, i =>
    let p ← index e "tuple" "tuple index out of range" (pure items.length) i
    pure (items.getD p .none)
  | .range a b st, .slice x y z =>
    let n := rangeLength a b st
    let cut ← cutOf e x y z
    let (start, stop) := cut.bounds n
    pure (.range (a + start * st) (a + stop * st) (st * cut.step))
  | .range a b st, i =>
    if !(← isIndex i) then refuseIndex "range" i
    let k ← Measure.index e i
    match place? (rangeLength a b st) k with
    | some p => pure (.int (a + p * st))
    | none => Exec.raise "IndexError" "range object index out of range"
  | .kind _, i => ofType e c i
  | .generic _ _, _ | .union _, _ =>
    Exec.typeError ((← e.quoted c) ++ " is not a generic class")
  | .object x, i =>
    match ← Exec.dataAt x, i with
    | .list _, .slice a b st =>
      let cut ← cutOf e a b st
      match ← Exec.dataAt x with
      | .list items => Exec.new .list (.list (cut.of items))
      | _ => refuseGet c
    | .list _, i =>
      let p ← index e "list" "list index out of range" (listSize x) i
      match ← Exec.dataAt x with
      | .list items => pure (items.getD p .none)
      | _ => refuseGet c
    | .dict _, i => ofDict e c x i
    | .bytearray _, .slice a b st | .zeros _, .slice a b st =>
      let cut ← cutOf e a b st
      Exec.new .bytearray (.bytearray (cut.of (← bytesAt x)))
    | .bytearray _, i | .zeros _, i =>
      let p ← index e "bytearray" "bytearray index out of range" (bytesSize x) i
      match ← Exec.dataAt x with
      | .bytearray b => pure (.int (b.getD p 0).toNat)
      | _ => pure (.int 0)
    | .proxy (.object d), i =>
      match ← Exec.dataAt d with
      | .dict _ => ofDict e (.object d) d i
      | _ =>
        match ← Typing.dictionary d with
        | .object d => ofDict e (.object d) d i
        | _ => refuseGet c
    | .classOf _, i => ofType e c i
    | _, _ => if ← Typing.isA c .stub then pure c else refuseGet c
  | _, _ => refuseGet c

/-- The item of a container. -/
def get (e : Engine) (c i : Value) : Exec Value := do
  match c, i with
  | .tuple items, .int n =>
    match place? items.length n with
    | some p => pure (items.getD p .none)
    | none => plainly e c i
  | .object a, i =>
    match (← Exec.object a).cls with
    | .kind _ => plainly e c i
    | _ =>
      match ← Typing.callProgram? e c "__getitem__" [i] with
      | some v => pure v
      | none => plainly e c i
  | _, _ => plainly e c i

/-! ### Setting and deleting -/

/-- The byte that a value is. -/
def byteOf (e : Engine) (what : String) (v : Value) : Exec UInt8 := do
  let n ← Measure.index e v
  if n < 0 || 255 < n then Exec.valueError (what ++ " must be in range(0, 256)")
  pure (UInt8.ofNat n.toNat)

/-- The parts of a list between which others are put. -/
def spliced {α : Type} (items : Array α) (start stop : Nat) (more : Array α) : Array α :=
  items.extract 0 start ++ more ++ items.extract (max start stop) items.size

/-- Replaces the items at places. -/
def replaced {α : Type} (items : Array α) (places : List Nat) (more : List α) : Array α :=
  (places.zip more).foldl (fun items (p, v) => items.setIfInBounds p v) items

/-- The items without those at some places. -/
def without {α : Type} (items : Array α) (places : List Nat) : Array α :=
  let places := places.mergeSort (· ≤ ·)
  let rec go : List Nat → Nat → List α → List α
    | _, _, [] => []
    | [], _, rest => rest
    | p :: ps, i, v :: rest =>
      if p == i then go ps (i + 1) rest else v :: go (p :: ps) (i + 1) rest
  (go places 0 items.toList).toArray

/-- Refuses as many items for a slice with a step. -/
def refuseSize {α : Type} (what : String) (given wanted : Nat) : Exec α :=
  Exec.valueError ("attempt to assign " ++ what ++ " of size " ++ toString given ++
    " to extended slice of size " ++ toString wanted)

/-- Items that are assigned to a slice. -/
def itemsFor (e : Engine) (message : String) (v : Value) : Exec (Array Value) := do
  match ← Iterate.iter? e v with
  | some _ => Iterate.array e v
  | none => Exec.typeError message

def setListSlice (e : Engine) (a : Nat) (cut : Cut) (v : Value) : Exec Unit := do
  let more ← itemsFor e (if cut.step == 1 then "can only assign an iterable"
    else "must assign iterable to extended slice") v
  match ← Exec.dataAt a with
  | .list items =>
    if cut.step == 1 then
      let (start, stop) := cut.bounds items.size
      Exec.setData a (.list (spliced items start.toNat stop.toNat more))
    else
      let places := cut.places items.size
      if places.length != more.size then refuseSize "sequence" more.size places.length
      Exec.setData a (.list (replaced items places more.toList))
  | _ => pure ()

/-- The bytes that are assigned to a slice. -/
def bytesFor (e : Engine) (v : Value) : Exec (Array UInt8) := do
  match ← Compare.bytes? v with
  | some b => pure b.toArray
  | none =>
    match v with
    | .int _ | .bool _ =>
      Exec.typeError "can assign only bytes, buffers, or iterables of ints in range(0, 256)"
    | .str _ => Exec.typeError "string argument without an encoding"
    | v =>
      let items ← itemsFor e
        "can assign only bytes, buffers, or iterables of ints in range(0, 256)" v
      items.mapM (byteOf e "byte")

def setBytesSlice (e : Engine) (a : Nat) (cut : Cut) (v : Value) : Exec Unit := do
  let more ← bytesFor e v
  let items ← bytesAt a
  if cut.step == 1 then
    let (start, stop) := cut.bounds items.size
    Exec.setData a (.bytearray (spliced items start.toNat stop.toNat more))
  else
    let places := cut.places items.size
    if places.length != more.size then refuseSize "bytes" more.size places.length
    Exec.setData a (.bytearray (replaced items places more.toList))

/-- Refuses a container whose items do not change. -/
def refusePut {α : Type} (c : Value) : Exec α := do
  Exec.typeError ("'" ++ (← Typing.word c) ++ "' object does not support item assignment")

/-- Whether a type has items by place as far as deleting them is concerned. -/
def hasPlaces (v : Value) : Exec Bool := do
  match ← Typing.of v with
  | .kind k =>
    pure (match k with
      | .str | .bytes | .tuple | .range | .set | .frozenset | .mappingProxy | .view _ => true
      | _ => false)
  | _ => pure true

def refuseErase {α : Type} (c i : Value) : Exec α := do
  let verb := if (← hasPlaces c) && (← isIndex i) then "doesn't" else "does not"
  Exec.typeError ("'" ++ (← Typing.word c) ++ "' object " ++ verb ++ " support item deletion")

/-- Sets the item of a container by the type that is there without a declaration. -/
def plainlyPut (e : Engine) (c i v : Value) : Exec Unit := do
  match c with
  | .object a =>
    match ← Exec.dataAt a, i with
    | .list _, .slice x y st => do setListSlice e a (← cutOf e x y st) v
    | .list _, i =>
      let p ← index e "list" "list assignment index out of range" (listSize a) i
      Exec.modifyData a fun
        | .list items => .list (items.setIfInBounds p v)
        | d => d
    | .dict _, i => Mapping.put e a i v
    | .bytearray _, .slice x y st | .zeros _, .slice x y st => do
      setBytesSlice e a (← cutOf e x y st) v
    | .bytearray _, i | .zeros _, i =>
      let p ← index e "bytearray" "bytearray index out of range" (bytesSize a) i
      let x ← byteOf e "byte" v
      let items ← bytesAt a
      Exec.setData a (.bytearray (items.setIfInBounds p x))
    | _, _ => refusePut c
  | c => refusePut c

/-- Sets the item of a container. -/
def put (e : Engine) (c i v : Value) : Exec Unit := do
  match ← Typing.callProgram? e c "__setitem__" [i, v] with
  | some _ => pure ()
  | none => plainlyPut e c i v

/-- Deletes the item of a container by the type that is there without a declaration. -/
def plainlyErase (e : Engine) (c i : Value) : Exec Unit := do
  match c with
  | .object a =>
    match ← Exec.dataAt a, i with
    | .list _, .slice x y st =>
      let cut ← cutOf e x y st
      match ← Exec.dataAt a with
      | .list items => Exec.setData a (.list (without items (cut.places items.size)))
      | _ => pure ()
    | .list _, i =>
      let p ← index e "list" "list assignment index out of range" (listSize a) i
      Exec.modifyData a fun
        | .list items => .list (items.eraseIdxIfInBounds p)
        | d => d
    | .dict _, i =>
      if (← Mapping.erase? e a i).isNone then Exec.raiseArgs "KeyError" [i]
    | .bytearray _, .slice x y st | .zeros _, .slice x y st =>
      let cut ← cutOf e x y st
      let items ← bytesAt a
      Exec.setData a (.bytearray (without items (cut.places items.size)))
    | .bytearray _, i | .zeros _, i =>
      let p ← index e "bytearray" "bytearray index out of range" (bytesSize a) i
      let items ← bytesAt a
      Exec.setData a (.bytearray (items.eraseIdxIfInBounds p))
    | _, _ => refuseErase c i
  | c => refuseErase c i

/-- Deletes the item of a container. -/
def erase (e : Engine) (c i : Value) : Exec Unit := do
  match ← Typing.callProgram? e c "__delitem__" [i] with
  | some _ => pure ()
  | none => plainlyErase e c i

/-! ### Membership -/

/-- The first place from `i` on at which a list stands in another that starts at `i`. -/
def find? {α : Type} [BEq α] (part : List α) (i : Nat) : List α → Option Nat
  | [] => if part.isEmpty then some i else none
  | c :: r => if part.isPrefixOf (c :: r) then some i else find? part (i + 1) r

/-- Whether one of the items of a list, as it is when they are reached, is a value. -/
def listHas (e : Engine) (a : Nat) (v : Value) : Nat → Nat → Exec Bool
  | 0, _ => throw .exhausted
  | n + 1, i => do
    match ← Exec.dataAt a with
    | .list items =>
      match items[i]? with
      | none => pure false
      | some w => if ← Compare.equal e w v then pure true else listHas e a v n (i + 1)
    | _ => pure false

/-- Whether a value is among those that an iterator yields. -/
def yields (e : Engine) (it v : Value) : Nat → Exec Bool
  | 0 => throw .exhausted
  | n + 1 => do
    match ← e.next it with
    | none => pure false
    | some w => if ← Compare.equal e w v then pure true else yields e it v n

/-- Whether a value is among those that another one yields. -/
def isAmong (e : Engine) (c v : Value) : Exec Bool := do
  match ← Iterate.iter? e c with
  | some it => do yields e it v (← Exec.fuel)
  | none =>
    Exec.typeError ("argument of type '" ++ (← Typing.word c) ++ "' is not iterable")

/-- A value as a member that a set is searched for: a set stands for one that cannot change. -/
def memberHash (e : Engine) (v : Value) : Exec UInt64 :=
  Exec.catching (Mapping.hashOf e v) fun x => do
    match ← Typing.isError x "TypeError", ← Exec.data? v with
    | true, some (.set m) => pure (hashOfMembers (m.entries.map (·.1)))
    | _, _ => throw (.raised x)

/-- Whether a container holds a value, by the type that is there without a declaration. -/
def plainlyContains (e : Engine) (c v : Value) : Exec Bool := do
  match ← Typing.unboxed c with
  | .str s =>
    match ← Typing.unboxed v with
    | .str t => pure (find? t.toList 0 s.toList).isSome
    | _ =>
      Exec.typeError ("'in <string>' requires string as left operand, not " ++ (← Typing.word v))
  | .bytes b => inBytes b
  | .tuple items => items.anyM fun w => Compare.equal e w v
  | .range start stop step =>
    match v.int? with
    | some n =>
      let isWithin := if 0 < step then start ≤ n && n < stop else stop < n && n ≤ start
      pure (isWithin && (n - start) % step == 0)
    | none => isAmong e c v
  | .object a =>
    match ← Exec.dataAt a with
    | .list _ => do listHas e a v (← Exec.fuel) 0
    | .dict _ => return (← Mapping.get? e a v).isSome
    | .set m => do Compare.isMember e m v (← memberHash e v)
    | .bytearray b => inBytes b.toList
    | .zeros n => inBytes (List.replicate n 0)
    | .view _ =>
      match ← Typing.of c with
      | .kind (.view .values) => isAmong e c v
      | _ => Compare.likeSetHas e c v
    | .proxy (.object d) =>
      match ← Exec.dataAt d with
      | .dict _ => return (← Mapping.get? e d v).isSome
      | _ =>
        match v with
        | .str n => return (← Typing.ownName? d n).isSome
        | _ => pure false
    | _ => isAmong e c v
  | _ => isAmong e c v
where
  inBytes (b : List UInt8) : Exec Bool := do
    match ← Compare.bytes? v with
    | some part => pure (find? part 0 b).isSome
    | none =>
      match ← Measure.index? e v with
      | some n =>
        if n < 0 || 255 < n then Exec.valueError "byte must be in range(0, 256)"
        pure (b.contains (UInt8.ofNat n.toNat))
      | none =>
        Exec.typeError ("a bytes-like object is required, not '" ++ (← Typing.word v) ++ "'")

/-- Whether a container holds a value. -/
def contains (e : Engine) (c v : Value) : Exec Bool := do
  match ← Typing.of c with
  | .kind _ => plainlyContains e c v
  | t =>
    match ← Typing.ofProgram? t "__contains__" with
    | some .none => Exec.typeError ("'" ++ (← Typing.word c) ++ "' object is not a container")
    | some _ =>
      Measure.truth e ((← Typing.callSpecial? e c "__contains__" [v]).getD (.bool false))
    | none =>
      if (← Typing.ofProgram? t "__iter__").isSome then
        match ← Typing.declared? t "__contains__" with
        | some _ => plainlyContains e c v
        | none => isAmong e c v
      else plainlyContains e c v

end Exemplar.Machine.Item

namespace Exemplar.Machine

namespace Mapping

/-- The entries of a dictionary that is iterated over by its own rule. -/
def entries? (v : Value) : Exec (Option Table) := do
  match v with
  | .object a =>
    let o ← Exec.object a
    match o.data, o.cls with
    | .dict t, .kind _ => pure (some t)
    | .dict t, cls =>
      if (← Typing.ofProgram? cls "__iter__").isSome then pure none else pure (some t)
    | _, _ => pure none
  | _ => pure none

/-- The keys of a value that says which it has. -/
def keysOf (e : Engine) (v keys : Value) : Exec (List Value) := do
  let ks ← e.call keys [] []
  match ← Iterate.iter? e ks with
  | some _ => Iterate.collect e ks
  | none =>
    Exec.typeError ((← Typing.word v) ++ ".keys() returned a non-iterable (type " ++
      (← Typing.word ks) ++ ")")

/-- Puts the entries of a mapping into a dictionary. -/
def putMapping (e : Engine) (a : Nat) (v keys : Value) : Exec Unit := do
  match ← entries? v with
  | some t => putTable e a t
  | none =>
    for k in ← keysOf e v keys do
      put e a k (← Item.get e v k)

/-- The pair that an element of a sequence of pairs is. -/
def pairOf (e : Engine) (v : Value) (i : Nat) : Exec (Value × Value) := do
  match ← Typing.absorbing "TypeError" (Iterate.collect e v) with
  | some [k, w] => pure (k, w)
  | some items =>
    Exec.valueError ("dictionary update sequence element #" ++ toString i ++ " has length " ++
      toString items.length ++ "; 2 is required")
  | none =>
    Exec.typeError ("cannot convert dictionary update sequence element #" ++ toString i ++
      " to a sequence")

/-- Puts the pairs that an iterator yields into a dictionary, `i` of them having been put. -/
def putPairs (e : Engine) (a : Nat) (it : Value) : Nat → Nat → Exec Unit
  | 0, _ => throw .exhausted
  | n + 1, i => do
    match ← e.next it with
    | none => pure ()
    | some v =>
      let (k, w) ← pairOf e v i
      put e a k w
      putPairs e a it n (i + 1)

/-- Puts the entries that a value gives into a dictionary. -/
def update (e : Engine) (a : Nat) (v : Value) : Exec Unit := do
  let exact ← match v with
    | .object b =>
      let o ← Exec.object b
      match o.data, o.cls with
      | .dict t, .kind _ => pure (some t)
      | _, _ => pure none
    | _ => pure none
  match exact with
  | some t => putTable e a t
  | none =>
    match ← Attribute.get? e v "keys" with
    | some keys => putMapping e a v keys
    | none => do putPairs e a (← Iterate.iter e v) (← Exec.fuel) 0

end Mapping

namespace Bag

/-- What a value gives to a set at once. -/
inductive Source
  | members (m : Members)
  | table (t : Table)
  | other

def sourceOf (v : Value) : Exec Source := do
  match v with
  | .object a =>
    let o ← Exec.object a
    match o.data, o.cls with
    | .set m, _ => pure (.members m)
    | .dict t, .kind _ => pure (.table t)
    | _, _ => pure .other
  | _ => pure .other

/-- Adds what an iterator yields to the set at an address. -/
def addYielded (e : Engine) (a : Nat) (it : Value) : Nat → Exec Unit
  | 0 => throw .exhausted
  | n + 1 => do
    match ← e.next it with
    | none => pure ()
    | some v =>
      put e a v
      addYielded e a it n

/-- Adds all that a value yields to the set at an address. -/
def update (e : Engine) (a : Nat) (v : Value) : Exec Unit := do
  match ← sourceOf v with
  | .members other => do Exec.setData a (.set (← merge e (← members a) other))
  | .table t => do Exec.setData a (.set (← mergeTable e (← members a) t))
  | .other => do addYielded e a (← Iterate.iter e v) (← Exec.fuel)

/-- A set of what a value yields. -/
def gather (e : Engine) (v : Value) : Exec Members := do
  match ← sourceOf v with
  | .members other => merge e {} other
  | .table t => mergeTable e {} t
  | .other => addAll e {} (← Iterate.collect e v)

/-- Takes all that a value yields out of the set at an address. -/
def takeOut (e : Engine) (a : Nat) (v : Value) : Exec Unit := do
  let m ← members a
  match v with
  | .object b =>
    if a == b then return ← Exec.setData a (.set {})
  | _ => pure ()
  match ← sourceOf v with
  | .members other => do Exec.setData a (.set (← without e m other))
  | _ => do Exec.setData a (.set (← withoutValues e m (← Iterate.collect e v)))

/-- The members of a set that a value yields. -/
def shared (e : Engine) (m : Members) (v : Value) : Exec Members := do
  match ← sourceOf v with
  | .members other => meet e m other
  | _ => meetValues e m (← Iterate.collect e v)

/-- The members of a set that a value does not yield. -/
def remaining (e : Engine) (m : Members) (v : Value) : Exec Members := do
  match ← sourceOf v with
  | .members other =>
    difference e m other.used (fun h k => Compare.isMember e other k h) fun m => without e m other
  | .table t =>
    difference e m t.used (fun h k => return (← Compare.placeOf e t k h).isSome)
      fun m => withoutValues e m t.keys
  | .other => withoutValues e (← copy e m) (← Iterate.collect e v)

/-- The members of a set changed by what a value yields: what is in both goes, what is in the value
alone comes. -/
def toggled (e : Engine) (m : Members) (v : Value) : Exec Members := do
  match ← sourceOf v with
  | .members other => toggle e m other.entries
  | .table t => toggle e m (t.toList.map fun x => (x.hash, x.key))
  | .other => toggle e m (← gather e v).entries

end Bag

end Exemplar.Machine
