import Exemplar.Machine.Method.Basic

/-
  Methods of dictionaries, of the views of them, and of what shows a dictionary without letting it
  be changed.

  Methods of sets. Those that give a set give one of the type that is there without a declaration,
  whatever extends it.
-/

namespace Exemplar.Machine.Method.OnDict

/-- Puts the entries of at most one argument, and those given by name, into a dictionary. -/
def update (e : Engine) (a : Nat) (p : Passed) : Exec Unit := do
  Passed.between { p with named := [] } 0 1
  if let some v := p.arg? 0 then Mapping.update e a v
  for (n, v) in p.named do
    Mapping.put e a (.str n) v

/-- A dictionary of keys with one value. -/
def fromKeys (e : Engine) (cls : Value) (p : Passed) : Exec Value := do
  p.between 1 2
  let v := p.arg 1
  let made ← e.call cls [] []
  let rec loop (put : Value → Exec Unit) (it : Value) : Nat → Exec Unit
    | 0 => throw .exhausted
    | n + 1 => do
      match ← e.next it with
      | none => pure ()
      | some k =>
        put k
        loop put it n
  let put (k : Value) : Exec Unit := do
    match cls, made with
    | .kind .dict, .object a => Mapping.put e a k v
    | _, d => Item.put e d k v
  loop put (← Iterate.iter e (p.arg 0)) (← Exec.fuel)
  pure made

/-- The entries of a dictionary from the last to the first. -/
def backward (form : ViewForm) (a : Nat) : Exec Value := do
  let t ← Mapping.table a
  Iterate.make (Iterate.viewIterator form true) (.entriesBackward form a t.entries.size t.used)

/-- The last entry that a table has. -/
def last? (t : Table) : Option (Entry × Nat) := t.previous? t.entries.size

/-- Calls a method of a dictionary. -/
def call (e : Engine) (a : Nat) (p : Passed) : Exec Value := do
  match p.short with
  | "get" =>
    p.between 1 2
    return (← Mapping.get? e a (p.arg 0)).getD (p.arg 1)
  | "setdefault" =>
    p.between 1 2
    match ← Mapping.get? e a (p.arg 0) with
    | some v => pure v
    | none =>
      Mapping.put e a (p.arg 0) (p.arg 1)
      pure (p.arg 1)
  | "pop" =>
    p.between 1 2
    let key := p.arg 0
    if (← Mapping.table a).used == 0 then
      match p.arg? 1 with
      | some v => pure v
      | none => Exec.raiseArgs "KeyError" [key]
    else
      match ← Mapping.erase? e a key, p.arg? 1 with
      | some v, _ => pure v
      | none, some v => pure v
      | none, none => Exec.raiseArgs "KeyError" [key]
  | "popitem" =>
    p.nothing
    match last? (← Mapping.table a) with
    | none => Exec.raise "KeyError" "popitem(): dictionary is empty"
    | some (x, place) =>
      Mapping.modifyTable a fun t => t.eraseLast place
      pure (.pair x.key x.value)
  | "keys" | "values" | "items" =>
    p.nothing
    let form : ViewForm := match p.short with
      | "keys" => .keys
      | "values" => .values
      | _ => .items
    Exec.new (.view form) (.view a)
  | "clear" =>
    p.nothing
    Exec.setData a (.dict {})
    pure .none
  | "copy" =>
    p.nothing
    Exec.new .dict (.dict (Mapping.copied (← Mapping.table a)))
  | "update" =>
    update e a p
    pure .none
  | "__contains__" => return .bool (← Mapping.get? e a (← p.one)).isSome
  | "__getitem__" => do Item.ofDict e (.object a) a (← p.one)
  | "__reversed__" =>
    p.nothing
    backward .keys a
  | "__sizeof__" => pure (.int 48)
  | _ => unsupported p.full

/-- Whether no item that a value yields is in a view. -/
def isDisjoint (e : Engine) (view other : Value) : Exec Bool := do
  if view.same other then return (← Measure.length? view).getD 0 == 0
  let sized? ← match ← Typing.of other with
    | .kind .set | .kind .frozenset | .kind (.view .keys) | .kind (.view .items) =>
      Measure.length? other
    | _ => pure none
  let (walked, searched) := match sized? with
    | some n => (n, other)
    | none => (0, view)
  let swap := sized?.isSome && ((← Measure.length? view).getD 0) < walked
  let (walk, search) := if swap then (view, searched) else (other, view)
  let rec loop (it : Value) : Nat → Exec Bool
    | 0 => throw .exhausted
    | n + 1 => do
      match ← e.next it with
      | none => pure true
      | some v => if ← Item.contains e search v then pure false else loop it n
  loop (← Iterate.iter e walk) (← Exec.fuel)

/-- Calls a method of a view. -/
def onView (e : Engine) (v : Value) (form : ViewForm) (a : Nat) (p : Passed) : Exec Value := do
  match p.short with
  | "isdisjoint" => return .bool (← isDisjoint e v (← p.one))
  | "__reversed__" =>
    p.nothing
    backward form a
  | _ => unsupported p.full

/-- The dictionary behind a value that shows one: that of a class is a copy of its names. -/
def behind (a : Nat) : Exec Value := do
  match ← Exec.dataAt a with
  | .dict _ => pure (.object a)
  | _ => do Typing.dictOf (← Typing.namesOf a)

/-- Calls a method of what shows a dictionary. -/
def onProxy (e : Engine) (shown : Value) (p : Passed) : Exec Value := do
  match shown with
  | .object a =>
    match ← behind a with
    | .object d => call e d p
    | _ => unsupported p.full
  | _ => unsupported p.full

end Exemplar.Machine.Method.OnDict

namespace Exemplar.Machine.Method.OnSet

/-- Whether a set has all members of another one. -/
def within (e : Engine) (m other : Members) : Exec Bool := do
  if other.used < m.used then pure false else Compare.allMembers e other m.entries

/-- Whether a set has all that an iterator yields. -/
def hasAll (e : Engine) (a : Nat) (it : Value) : Nat → Exec Bool
  | 0 => throw .exhausted
  | n + 1 => do
    match ← e.next it with
    | none => pure true
    | some v =>
      let h ← Mapping.hashOf e v
      if ← Compare.isMember e (← Bag.members a) v h then hasAll e a it n else pure false

/-- Whether a set has nothing that an iterator yields. -/
def hasNone (e : Engine) (a : Nat) (it : Value) : Nat → Exec Bool
  | 0 => throw .exhausted
  | n + 1 => do
    match ← e.next it with
    | none => pure true
    | some v =>
      let h ← Mapping.hashOf e v
      if ← Compare.isMember e (← Bag.members a) v h then pure false else hasNone e a it n

/-- The members of a set that none of the others has. -/
def disjoint (e : Engine) (m other : Members) : Exec Bool := do
  let (walked, searched) := if m.used < other.used then (m, other) else (other, m)
  walked.entries.allM fun (h, k) => return !(← Compare.isMember e searched k h)

/-- The members that several values all yield. -/
def sharedByAll (e : Engine) (m : Members) (others : List Value) : Exec Members := do
  if others.isEmpty then Bag.copy e m else others.foldlM (Bag.shared e) m

/-- Takes out a member; whether it was there. -/
def takeOut (e : Engine) (a : Nat) (v : Value) : Exec Bool := do
  let h ← Item.memberHash e v
  let (m, was) ← Bag.discardHashed e (← Bag.members a) h v
  Exec.setData a (.set m)
  pure was

/-- Calls a method of a set. -/
def call (e : Engine) (k : Kind) (a : Nat) (p : Passed) : Exec Value := do
  let v : Value := .object a
  let make (m : Members) : Exec Value := Exec.new k (.set m)
  let set (m : Members) : Exec Value := do
    Exec.setData a (.set m)
    pure .none
  match p.short with
  | "add" =>
    let w ← p.one
    Bag.put e a w
    pure .none
  | "discard" =>
    let _ ← takeOut e a (← p.one)
    pure .none
  | "remove" =>
    let w ← p.one
    if ← takeOut e a w then pure .none else Exec.raiseArgs "KeyError" [w]
  | "pop" =>
    p.nothing
    let m ← Bag.members a
    match m.occupied? m.finger with
    | none => Exec.raise "KeyError" "pop from an empty set"
    | some (place, w) =>
      Exec.setData a (.set { m.eraseAt place with finger := place + 1 })
      pure w
  | "clear" =>
    p.nothing
    set {}
  | "copy" =>
    p.nothing
    match k, (← Exec.object a).cls with
    | .frozenset, .kind .frozenset => pure v
    | _, _ => do make (← Bag.copy e (← Bag.members a))
  | "__contains__" => return .bool (← Item.plainlyContains e v (← p.one))
  | "__sizeof__" => pure (.int 200)
  | "isdisjoint" =>
    let other ← p.one
    let m ← Bag.members a
    match ← Operate.set? other, ← Typing.of other with
    | some (_, n), .kind _ =>
      if v.same other then pure (.bool (m.used == 0)) else return .bool (← disjoint e m n)
    | _, _ => return .bool (← hasNone e a (← Iterate.iter e other) (← Exec.fuel))
  | "issubset" =>
    let other ← p.one
    let m ← Bag.members a
    match ← Operate.set? other with
    | some (_, n) => return .bool (← within e m n)
    | none => return .bool ((← Bag.shared e m other).used == m.used)
  | "issuperset" =>
    let other ← p.one
    match ← Operate.set? other with
    | some (_, n) => return .bool (← within e n (← Bag.members a))
    | none => return .bool (← hasAll e a (← Iterate.iter e other) (← Exec.fuel))
  | "symmetric_difference" =>
    let other ← p.one
    make (← Bag.toggle e (← Bag.gather e other) (← Bag.members a).entries)
  | "symmetric_difference_update" =>
    let other ← p.one
    if v.same other then set {} else do set (← Bag.toggled e (← Bag.members a) other)
  | _ =>
  p.byPlace
  match p.short with
  | "update" =>
    for other in p.args do
      Bag.update e a other
    pure .none
  | "union" =>
    let made ← make (← Bag.copy e (← Bag.members a))
    if let .object b := made then
      for other in p.args do
        if !v.same other then Bag.update e b other
    pure made
  | "intersection" => do make (← sharedByAll e (← Bag.members a) p.args)
  | "intersection_update" => do set (← sharedByAll e (← Bag.members a) p.args)
  | "difference" =>
    let m ← Bag.members a
    match p.args with
    | [] => do make (← Bag.copy e m)
    | first :: rest =>
      let made ← make (← Bag.remaining e m first)
      if let .object b := made then
        for other in rest do
          Bag.takeOut e b other
      pure made
  | "difference_update" =>
    for other in p.args do
      Bag.takeOut e a other
    pure .none
  | _ => unsupported p.full

end Exemplar.Machine.Method.OnSet
