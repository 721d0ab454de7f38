import Exemplar.Machine.Method.Basic
import Exemplar.Machine.Sort

/-
  Methods of lists, tuples, ranges and slices. A list is looked at as it is when its items are
  reached, since comparing them may change it.
-/

namespace Exemplar.Machine.Method.OnList

/-- The items of a list as it is. -/
def itemsAt (a : Nat) : Exec (Array Value) := do
  match ← Exec.dataAt a with
  | .list items => pure items
  | _ => pure #[]

/-- A place that bounds a search. -/
def bound (e : Engine) (otherwise : Int) (v? : Option Value) : Exec Int := do
  match v? with
  | none => pure otherwise
  | some v =>
    match ← Measure.index? e v with
    | some n => pure n
    | none =>
      Exec.typeError "slice indices must be integers or have an __index__ method"

/-- The first place from `i` on, and before `stop`, that has an item equal to a value. -/
def placeOf (e : Engine) (item : Nat → Exec (Option Value)) (v : Value) (stop : Nat) :
    Nat → Nat → Exec (Option Nat)
  | 0, _ => throw .exhausted
  | n + 1, i => do
    if stop ≤ i then return none
    match ← item i with
    | none => pure none
    | some w => if ← Compare.equal e w v then pure (some i) else placeOf e item v stop n (i + 1)

def itemAt (a : Nat) (i : Nat) : Exec (Option Value) := do return (← itemsAt a)[i]?

/-- How many items are equal to a value, from the place `i` on. -/
def countFrom (e : Engine) (item : Nat → Exec (Option Value)) (v : Value) :
    Nat → Nat → Nat → Exec Nat
  | 0, _, _ => throw .exhausted
  | n + 1, i, found => do
    match ← item i with
    | none => pure found
    | some w =>
      countFrom e item v n (i + 1) (if ← Compare.equal e w v then found + 1 else found)

/-- The place of a value among items, between two bounds that arguments may give. -/
def index (e : Engine) (size : Exec Nat) (item : Nat → Exec (Option Value))
    (refuse : Value → Exec Value) (p : Passed) : Exec Value := do
  p.between 1 3
  let start ← bound e 0 (p.arg? 1)
  let stop ← bound e maxSize (p.arg? 2)
  let n ← size
  let low (i : Int) : Nat := (if i < 0 then i + n else i).toNat
  match ← placeOf e item (p.arg 0) (low stop) (← Exec.fuel) (low start) with
  | some i => pure (.int i)
  | none => refuse (p.arg 0)

/-- Puts what a value yields behind the items of a list, one by one. -/
def extend (e : Engine) (a : Nat) (v : Value) : Exec Unit := do
  let push (w : Value) : Exec Unit :=
    Exec.modifyData a fun
      | .list items => .list (items.push w)
      | d => d
  let rec loop (it : Value) : Nat → Exec Unit
    | 0 => throw .exhausted
    | n + 1 => do
      match ← e.next it with
      | none => pure ()
      | some w =>
        push w
        loop it n
  match v, ← Exec.object? v with
  | .tuple items, _ => Operate.extendList a items.toArray
  | _, some { cls := .kind .list, data := .list items, .. } => Operate.extendList a items
  | v, _ =>
    let it ← Iterate.iter e v
    Iterate.hint e v
    loop it (← Exec.fuel)

/-- The function that items are compared by, and whether they are to fall. -/
def order (e : Engine) (p : Passed) : Exec (Value × Bool) := do
  let given ← p.fill ["key", "reverse"] 0 0
  let reverse ← match given.getD 1 none with
    | some v => (· != 0) <$> Measure.smallArgument e v
    | none => pure false
  pure ((given.getD 0 none).getD .none, reverse)

/-- Calls a method of a list. -/
def call (e : Engine) (a : Nat) (p : Passed) : Exec Value := do
  let set (items : Array Value) : Exec Value := do
    Exec.setData a (.list items)
    pure .none
  match p.short with
  | "append" =>
    let v ← p.one
    Exec.modifyData a fun
      | .list items => .list (items.push v)
      | d => d
    pure .none
  | "extend" =>
    extend e a (← p.one)
    pure .none
  | "insert" =>
    p.between 2 2
    let i ← Measure.sizeArgument e (p.arg 0)
    let items ← itemsAt a
    let n : Int := items.size
    let place := max 0 (min n (if i < 0 then i + n else i))
    set (items.insertIdxIfInBounds place.toNat (p.arg 1))
  | "pop" =>
    p.between 0 1
    let i ← sizeOr e (-1) (p.arg? 0)
    let items ← itemsAt a
    if items.isEmpty then Exec.raise "IndexError" "pop from empty list"
    match Item.place? items.size i with
    | none => Exec.raise "IndexError" "pop index out of range"
    | some place =>
      let v := items.getD place .none
      Exec.modifyData a fun
        | .list items =>
          .list (if place + 1 == items.size then items.pop else items.eraseIdxIfInBounds place)
        | d => d
      pure v
  | "remove" =>
    match ← placeOf e (itemAt a) (← p.one) maxSize.toNat (← Exec.fuel) 0 with
    | some place => do set ((← itemsAt a).eraseIdxIfInBounds place)
    | none => Exec.valueError "list.remove(x): x not in list"
  | "clear" =>
    p.nothing
    set #[]
  | "copy" =>
    p.nothing
    Exec.new .list (.list (← itemsAt a))
  | "reverse" =>
    p.nothing
    set (← itemsAt a).reverse
  | "index" =>
    index e (return (← itemsAt a).size) (itemAt a) (fun v => do
      Exec.valueError ((← e.quoted v) ++ " is not in list")) p
  | "count" => return .int (← countFrom e (itemAt a) (← p.one) (← Exec.fuel) 0 0)
  | "sort" =>
    let (key, reverse) ← order e p
    Sort.list e a key reverse
    pure .none
  | "__reversed__" =>
    p.nothing
    Iterate.make "list_reverseiterator" (.listBackward a ((← itemsAt a).size - 1))
  | "__getitem__" => do Item.plainly e (.object a) (← p.one)
  | "__sizeof__" => return .int (40 + 8 * (← itemsAt a).size)
  | _ => unsupported p.full

/-- Calls a method of a tuple. -/
def onTuple (e : Engine) (items : List Value) (p : Passed) : Exec Value := do
  let all := items.toArray
  let item (i : Nat) : Exec (Option Value) := pure all[i]?
  match p.short with
  | "index" =>
    index e (pure all.size) item (fun _ => Exec.valueError "tuple.index(x): x not in tuple") p
  | "count" => return .int (← countFrom e item (← p.one) (all.size + 1) 0 0)
  | "__getnewargs__" =>
    p.nothing
    pure (.tuple [.tuple items])
  | _ => unsupported p.full

/-- The place of an integer in a range. -/
def placeIn? (start stop step n : Int) : Option Int :=
  let within := if 0 < step then start ≤ n && n < stop else stop < n && n ≤ start
  if within && (n - start) % step == 0 then some ((n - start) / step) else none

/-- The numbers of a range from the last to the first. -/
def backward (start stop step : Int) : Exec Value :=
  let n := rangeLength start stop step
  Iterate.make "range_iterator" (.counting (start + (n - 1) * step) (-step) n)

/-- Calls a method of a range. -/
def onRange (e : Engine) (start stop step : Int) (p : Passed) : Exec Value := do
  let n := rangeLength start stop step
  let item (i : Nat) : Exec (Option Value) :=
    pure (if i < n then some (.int (start + i * step)) else none)
  match p.short with
  | "index" =>
    let v ← p.one
    match v.int? with
    | some k =>
      match placeIn? start stop step k with
      | some i => pure (.int i)
      | none => Exec.valueError ((← e.quoted v) ++ " is not in range")
    | none =>
      match ← placeOf e item v n (n + 1) 0 with
      | some i => pure (.int i)
      | none => Exec.valueError "sequence.index(x): x not in sequence"
  | "count" =>
    let v ← p.one
    match v.int? with
    | some k => pure (.int (if (placeIn? start stop step k).isSome then 1 else 0))
    | none => return .int (← countFrom e item v (n + 1) 0 0)
  | "__reversed__" =>
    p.nothing
    backward start stop step
  | _ => unsupported p.full

/-- Calls a method of a slice. -/
def onSlice (e : Engine) (lower upper step : Value) (p : Passed) : Exec Value := do
  match p.short with
  | "indices" =>
    let n ← Measure.index e (← p.one)
    if n < 0 then Exec.valueError "length should not be negative"
    let cut ← Item.cutOf e lower upper step
    let (start, stop) := cut.bounds n.toNat
    pure (.tuple [.int start, .int stop, .int cut.step])
  | _ => unsupported p.full

end Exemplar.Machine.Method.OnList
