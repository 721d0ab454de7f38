import Exemplar.Machine.Generator

/-
  Iteration: what yields the items of a value, the next item, and all of them. A container whose
  size changes while it is iterated over is refused; a list is followed as it is when its items are
  reached.
-/

namespace Exemplar.Machine.Iterate

/-! ### Making iterators -/

/-- An iterator whose type has a name. -/
def make (typeName : String) (i : Iterator) : Exec Value :=
  Exec.new (.iterator typeName) (.iterator i)

def refuse {α : Type} (v : Value) : Exec α := do
  Exec.typeError ("'" ++ (← Typing.word v) ++ "' object is not iterable")

def isAscii (s : String) : Bool := s.toList.all fun c => c.toNat < 128

/-- The characters of a text, each as a text. -/
def characters (s : String) : List Value := s.toList.map fun c => .str (String.singleton c)

def byteValues (b : List UInt8) : List Value := b.map fun x => .int x.toNat

/-- The name of the type of iterators over a view of a dictionary, from the front or the end. -/
def viewIterator (form : ViewForm) (backward : Bool) : String :=
  "dict_" ++ (if backward then "reverse" else "") ++ (match form with
    | .keys => "key"
    | .values => "value"
    | .items => "item") ++ "iterator"

def ofDict (form : ViewForm) (d : Nat) : Exec Value := do
  let t ← Mapping.table d
  make (viewIterator form false) (.entries form d 0 t.used t.used)

/-- The iterator of what an object holds, if it can be iterated over. -/
def ofData? (v : Value) (a : Nat) (o : Object) : Exec (Option Value) := do
  match o.data with
  | .list _ => some <$> make "list_iterator" (.listItems a 0)
  | .dict _ => some <$> ofDict .keys a
  | .set m => some <$> make "set_iterator" (.members a 0 m.used)
  | .bytearray _ | .zeros _ => some <$> make "bytearray_iterator" (.byteItems a 0)
  | .view d =>
    match o.cls with
    | .kind (.view form) => some <$> ofDict form d
    | _ => pure none
  | .iterator _ => pure (some v)
  | .generator g => pure (if g.manner == .plain || g.manner == .generator then some v else none)
  | .awaiting _ | .step _ _ _ => pure (some v)
  | .proxy (.object c) =>
    match ← Exec.dataAt c with
    | .dict _ => some <$> ofDict .keys c
    | _ =>
      match ← Typing.dictionary c with
      | .object d => some <$> ofDict .keys d
      | _ => pure none
  | _ => pure none

/-- The iterator of a value by the type that is there without a declaration. -/
def plain? (v : Value) : Exec (Option Value) := do
  match ← Typing.unboxed v with
  | .str s =>
    some <$> make (if isAscii s then "str_ascii_iterator" else "str_iterator")
      (.values (characters s))
  | .bytes b => some <$> make "bytes_iterator" (.values (byteValues b))
  | .tuple items => some <$> make "tuple_iterator" (.values items)
  | .range start stop step =>
    some <$> make "range_iterator" (.counting start step (rangeLength start stop step))
  | .object a => do ofData? v a (← Exec.object a)
  | _ => pure none

/-- Whether a value has items by place, as a program declares. -/
def isSequence (v : Value) : Exec Bool := do
  return (← Typing.ofProgram? (← Typing.of v) "__getitem__").isSome

/-- Whether a value can be asked for a next item. -/
def isIterator (v : Value) : Exec Bool := do
  match ← Typing.special? v "__next__" with
  | some .none | none => pure false
  | some _ => pure true

/-- The iterator over the items of a value, if it has any. -/
def iter? (e : Engine) (v : Value) : Exec (Option Value) := do
  let t ← Typing.of v
  match t with
  | .kind .stub => some <$> make "iterator" (.sequence v 0)
  | .kind _ => plain? v
  | t =>
    match ← Typing.ofProgram? t "__iter__" with
    | some .none => pure none
    | some _ =>
      let it := (← Typing.callSpecial? e v "__iter__" []).getD .none
      if ← isIterator it then pure (some it)
      else
        Exec.typeError ("iter() returned non-iterator of type '" ++ (← Typing.word it) ++ "'")
    | none =>
      match ← plain? v with
      | some it => pure (some it)
      | none =>
        if ← isSequence v then some <$> make "iterator" (.sequence v 0) else pure none

/-- The iterator over the items of a value. -/
def iter (e : Engine) (v : Value) : Exec Value := do
  match ← iter? e v with
  | some it => pure it
  | none => refuse v

/-! ### The next item -/

/-- A number of entries that no dictionary has. -/
def never : Nat := 0xffffffffffffffff

def entryValue (form : ViewForm) (x : Entry) : Value :=
  match form with
  | .keys => x.key
  | .values => x.value
  | .items => .pair x.key x.value

/-- Refuses a container that changed. -/
def refuseChange {α : Type} (what : String) : Exec α :=
  Exec.raise "RuntimeError" (what ++ " during iteration")

/-- The next item of an iterator with the iterator behind it. -/
def step (e : Engine) (a : Nat) (i : Iterator) : Exec (Option (Value × Iterator)) := do
  let set (i : Iterator) : Exec Unit := Exec.setData a (.iterator i)
  match i with
  | .done => pure none
  | .values [] => pure none
  | .values (v :: vs) => pure (some (v, .values vs))
  | .counting _ _ 0 => pure none
  | .counting next step (n + 1) => pure (some (.int next, .counting (next + step) step n))
  | .listItems list next =>
    match ← Exec.dataAt list with
    | .list items =>
      match items[next]? with
      | some v => pure (some (v, .listItems list (next + 1)))
      | none => pure none
    | _ => pure none
  | .listBackward list next =>
    match ← Exec.dataAt list with
    | .list items =>
      if next < 0 then pure none
      else match items[next.toNat]? with
        | some v => pure (some (v, .listBackward list (next - 1)))
        | none => pure none
    | _ => pure none
  | .byteItems bytes next =>
    match ← Exec.dataAt bytes with
    | .bytearray b =>
      match b[next]? with
      | some x => pure (some (.int x.toNat, .byteItems bytes (next + 1)))
      | none => pure none
    | .zeros n =>
      pure (if next < n then some (.int 0, .byteItems bytes (next + 1)) else none)
    | _ => pure none
  | .entries form dict next used left =>
    let t ← Mapping.table dict
    if t.used != used then
      set (.entries form dict next never left)
      refuseChange "dictionary changed size"
    match t.next? next with
    | none => pure none
    | some (x, next) =>
      if left == 0 then
        set .done
        refuseChange "dictionary keys changed"
      pure (some (entryValue form x, .entries form dict next used (left - 1)))
  | .entriesBackward form dict next used =>
    let t ← Mapping.table dict
    if t.used != used then
      set (.entriesBackward form dict next never)
      refuseChange "dictionary changed size"
    match t.previous? next with
    | none => pure none
    | some (x, next) => pure (some (entryValue form x, .entriesBackward form dict next used))
  | .members s next used =>
    let m ← Bag.members s
    if m.used != used then
      set (.members s next never)
      refuseChange "Set changed size"
    match m.next? next with
    | none => pure none
    | some (v, next) => pure (some (v, .members s next used))
  | .sequence container next =>
    match ← item? container next with
    | some v => pure (some (v, .sequence container (next + 1)))
    | none => pure none
  | .sequenceBackward container next =>
    if next < 0 then pure none
    else match ← item? container next.toNat with
      | some v => pure (some (v, .sequenceBackward container (next - 1)))
      | none => pure none
  | .numbered inner next =>
    match ← e.next inner with
    | some v => pure (some (.pair (.int next) v, .numbered inner (next + 1)))
    | none => pure none
  | .zipped inner strict =>
    match ← together 0 inner [] with
    | .ok vs => pure (if inner.isEmpty then none else some (.tuple vs, .zipped inner strict))
    | .error place =>
      if strict then settle place inner
      pure none
  | .mapped f inner =>
    match ← together 0 inner [] with
    | .ok vs => return some (← e.call f vs [], .mapped f inner)
    | .error _ => pure none
  | .filtered f inner =>
    match ← accepted f inner (← Exec.fuel) with
    | some v => pure (some (v, .filtered f inner))
    | none => pure none
  | .called f sentinel =>
    match ← Typing.absorbing "StopIteration" (e.call f [] []) with
    | none => pure none
    | some v => if ← Compare.equal e sentinel v then pure none else pure (some (v, i))
where
  /-- The item at a place, unless that is behind the end. -/
  item? (container : Value) (place : Nat) : Exec (Option Value) :=
    Exec.catching (Typing.callSpecial? e container "__getitem__" [.int place]) fun x => do
      if (← Typing.isError x "IndexError") || (← Typing.isError x "StopIteration") then pure none
      else throw (.raised x)
  /-- The next items of several iterators, or the place of the first that has none. -/
  together (place : Nat) : List Value → List Value → Exec (Except Nat (List Value))
    | [], done => pure (.ok done.reverse)
    | it :: r, done => do
      match ← e.next it with
      | some v => together (place + 1) r (v :: done)
      | none => pure (.error place)
  /-- The message about iterators that end at different places. -/
  uneven (place : Nat) (how : String) : String :=
    "zip() argument " ++ toString (place + 1) ++ " is " ++ how ++ " than argument" ++
      (if place == 1 then " " else "s 1-") ++ toString place
  settle (place : Nat) (inner : List Value) : Exec Unit := do
    if place != 0 then Exec.valueError (uneven place "shorter")
    for (it, i) in (inner.zipIdx.drop 1) do
      if (← e.next it).isSome then Exec.valueError (uneven i "longer")
  accepted (f inner : Value) : Nat → Exec (Option Value)
    | 0 => throw .exhausted
    | n + 1 => do
      match ← e.next inner with
      | none => pure none
      | some v =>
        let r ← match f with
          | .none | .kind .bool => pure v
          | f => e.call f [v] []
        if ← Measure.truth e r then pure (some v) else accepted f inner n

/-- Whether an iterator asks others for what it yields, also after its end. -/
def asksOthers : Iterator → Bool
  | .numbered _ _ | .zipped _ _ | .mapped _ _ | .filtered _ _ => true
  | _ => false

/-- The next item of an iterator, if there is one. -/
def next (e : Engine) (it : Value) : Exec (Option Value) := do
  Exec.tick
  let refuse : Exec (Option Value) := do
    Exec.typeError ("'" ++ (← Typing.word it) ++ "' object is not an iterator")
  let declared : Exec (Option Value) := do
    match ← Typing.special? it "__next__" with
    | some .none | none => refuse
    | some _ =>
      return (← Typing.absorbing "StopIteration" (Typing.callSpecial? e it "__next__" [])).join
  match it with
  | .object a =>
    let o ← Exec.object a
    match o.data, o.cls with
    | .iterator i, .kind _ =>
      match ← step e a i with
      | some (v, i) =>
        Exec.setData a (.iterator i)
        pure (some v)
      | none =>
        if !asksOthers i then Exec.setData a (.iterator .done)
        pure none
    | .generator g, _ =>
      if g.manner == .generator then
        match ← Generator.resume e a g .none with
        | .yielded v | .awaiting v => pure (some v)
        | .returned _ => pure none
      else refuse
    | _, _ => declared
  | _ => refuse

/-- What sending a value to an iterator gives: what it yields, or the value of its end. -/
def send (e : Engine) (it v : Value) : Exec (Except Value Value) := do
  match ← Generator.of? it with
  | some (a, g) =>
    if g.manner == .asyncGenerator then refuse it
    else match ← Generator.resume e a g v with
      | .yielded w | .awaiting w => pure (.ok w)
      | .returned w => pure (.error w)
  | none =>
    match it, ← Exec.data? it, ← Typing.of it with
    | .object _, some (.iterator _), .kind _ =>
      if v.isNone then
        match ← next e it with
        | some w => pure (.ok w)
        | none => pure (.error .none)
      else byMethod
    | _, _, _ => byMethod
where
  byMethod : Exec (Except Value Value) :=
    Exec.catching (do
      if v.isNone then return .ok ((← Typing.callSpecial? e it "__next__" []).getD .none)
      else return .ok (← e.call (← Attribute.get e it "send") [v] [])) fun x => do
        if ← Typing.isError x "StopIteration" then return .error (← Generator.valueOf x)
        else throw (.raised x)

/-! ### All items -/

/-- All items of an iterator behind those that are collected already. -/
def drain (e : Engine) (it : Value) : Nat → Array Value → Exec (Array Value)
  | 0, _ => throw .exhausted
  | n + 1, done => do
    match ← e.next it with
    | some v => drain e it n (done.push v)
    | none => pure done

/-- Asks a value how many items it will yield; what it answers is of no use here, but asking may
fail. -/
def hint (e : Engine) (v : Value) : Exec Unit := do
  match ← Typing.of v with
  | .kind _ => pure ()
  | t =>
    let known ← match ← Typing.ofProgram? t "__len__" with
      | some _ => Typing.absorbing "TypeError" (Measure.size e v)
      | none => pure none
    if known.isSome then return
    match ← Typing.ofProgram? t "__length_hint__" with
    | none => pure ()
    | some _ =>
      match ← Typing.absorbing "TypeError" (Typing.callSpecial? e v "__length_hint__" []) with
      | some (some w) =>
        if !w.isNotImplemented then
          match ← Measure.integer? w with
          | none =>
            Exec.typeError ("__length_hint__ must be an integer, not " ++ (← Typing.word w))
          | some n =>
            if n < 0 then Exec.valueError "__length_hint__() should return >= 0"
      | _ => pure ()

/-- All items of a range. -/
def rangeItems (start step : Int) (n : Nat) : Array Value :=
  (Array.range n).map fun (i : Nat) => .int (start + step * i)

/-- All that a value yields, in an array. -/
def array (e : Engine) (v : Value) : Exec (Array Value) := do
  let all : Exec (Array Value) := do
    let it ← iter e v
    hint e v
    drain e it (← Exec.fuel) #[]
  match v with
  | .tuple items => pure items.toArray
  | .object a =>
    let o ← Exec.object a
    match o.data, o.cls with
    | .list items, .kind _ => pure items
    | _, _ => all
  | _ => all

/-- All that a value yields. -/
def collect (e : Engine) (v : Value) : Exec (List Value) := do return (← array e v).toList

/-- At most so many items of an iterator. -/
def take (e : Engine) (it : Value) : Nat → Exec (List Value)
  | 0 => pure []
  | n + 1 => do
    match ← e.next it with
    | some v => return v :: (← take e it n)
    | none => pure []

/-! ### Taking apart -/

/-- The message about too few items. -/
def fewItems (expected got : Nat) (atLeast : Bool) : String :=
  "not enough values to unpack (expected " ++ (if atLeast then "at least " else "") ++
    toString expected ++ ", got " ++ toString got ++ ")"

/-- The iterator of a value whose items are to be told apart. -/
def iterToUnpack (e : Engine) (v : Value) : Exec Value := do
  match ← iter? e v with
  | some it => pure it
  | none =>
    match ← Typing.special? v "__iter__" with
    | some _ => refuse v
    | none => Exec.typeError ("cannot unpack non-iterable " ++ (← Typing.word v) ++ " object")

/-- Exactly so many items of a value. -/
def unpack (e : Engine) (v : Value) (n : Nat) : Exec (List Value) := do
  let exactly (vs : List Value) : Exec (List Value) := do
    if vs.length < n then Exec.valueError (fewItems n vs.length false)
    else if n < vs.length then
      Exec.valueError ("too many values to unpack (expected " ++ toString n ++ ")")
    else pure vs
  match v with
  | .tuple items => exactly items
  | v =>
    let it ← iterToUnpack e v
    exactly (← take e it (n + 1))

/-- So many items of a value, a list of the middle ones, and so many at the end. -/
def unpackAround (e : Engine) (v : Value) (before after : Nat) : Exec (List Value) := do
  let it ← iterToUnpack e v
  let first ← take e it before
  if first.length < before then Exec.valueError (fewItems (before + after) first.length true)
  let rest ← drain e it (← Exec.fuel) #[]
  if rest.size < after then
    Exec.valueError (fewItems (before + after) (before + rest.size) true)
  let middle := rest.size - after
  let list ← Exec.new .list (.list (rest.extract 0 middle))
  pure (first ++ list :: (rest.extract middle rest.size).toList)

end Exemplar.Machine.Iterate
