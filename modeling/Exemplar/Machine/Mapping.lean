import Exemplar.Machine.Compare

/-
  Dictionaries and sets in the store: looking for a key, putting entries and members in and taking
  them out, and the operations that put two sets together.
-/

namespace Exemplar.Machine

namespace Mapping

/-- The hash of a key. -/
def hashOf (e : Engine) (key : Value) : Exec UInt64 :=
  match key with
  | .str s => pure (hashOfText s)
  | key => e.hash key

/-- The table of a dictionary. -/
def table (a : Nat) : Exec Table := do
  match ← Exec.dataAt a with
  | .dict t => pure t
  | _ => pure {}

/-- Changes the table of a dictionary. -/
def modifyTable (a : Nat) (f : Table → Table) : Exec Unit :=
  Exec.modifyData a fun
    | .dict t => .dict (f t)
    | d => d

/-- The value of a key in a dictionary. -/
def get? (e : Engine) (a : Nat) (key : Value) : Exec (Option Value) := do
  match key with
  | .str s =>
    match ← Exec.dataAt a with
    | .dict t =>
      match t.getText? s with
      | some v => pure (some v)
      | none => Compare.valueOf? e t key (hashOfText s)
    | _ => pure none
  | key =>
    let h ← hashOf e key
    Compare.valueOf? e (← table a) key h

/-- Sets the value of a key whose hash is known. -/
def putHashed (e : Engine) (a : Nat) (hash : UInt64) (key value : Value) : Exec Unit := do
  match ← Compare.placeOf e (← table a) key hash with
  | some i => modifyTable a fun t => t.setAt i value
  | none => modifyTable a fun t => t.append hash key value

def put (e : Engine) (a : Nat) (key value : Value) : Exec Unit := do
  putHashed e a (← hashOf e key) key value

/-- Takes out a key; the value that it had. -/
def erase? (e : Engine) (a : Nat) (key : Value) : Exec (Option Value) := do
  let h ← hashOf e key
  let t ← table a
  match ← Compare.placeOf e t key h with
  | some i =>
    let v := (t.entries.getD i none).map (·.value)
    modifyTable a fun t => t.eraseAt i
    pure v
  | none => pure none

/-- Puts all entries of a table into a dictionary. -/
def putTable (e : Engine) (a : Nat) (t : Table) : Exec Unit :=
  t.toList.forM fun x => putHashed e a x.hash x.key x.value

/-- A dictionary of keys with values, the last value of a key counting. -/
def ofPairs (e : Engine) (pairs : List (Value × Value)) : Exec Value := do
  let v ← Exec.new .dict (.dict {})
  if let .object a := v then
    for (k, w) in pairs do
      put e a k w
  pure v

/-- A copy of a table, with the same holes unless they are many. -/
def copied (t : Table) : Table :=
  if t.entries.size * 2 / 3 ≤ t.used then t
  else if t.used == 0 then {}
  else t.toList.foldl (fun u x => u.append x.hash x.key x.value) (Table.sized t.used)

end Mapping

namespace Bag

/-- The members of a set. -/
def members (a : Nat) : Exec Members := do
  match ← Exec.dataAt a with
  | .set m => pure m
  | _ => pure {}

/-- Adds a member with its hash. -/
def addHashed (e : Engine) (m : Members) (hash : UInt64) (key : Value) : Exec Members := do
  match ← Compare.look e m key hash with
  | .at _ => pure m
  | .free i => pure (m.putAt i hash key)

def add (e : Engine) (m : Members) (key : Value) : Exec Members := do
  addHashed e m (← Mapping.hashOf e key) key

/-- Adds a member to the set at an address. -/
def put (e : Engine) (a : Nat) (key : Value) : Exec Unit := do
  let hash ← Mapping.hashOf e key
  match ← Compare.look e (← members a) key hash with
  | .at _ => pure ()
  | .free i =>
    Exec.modifyData a fun
      | .set m => .set (m.putAt i hash key)
      | d => d

/-- Adds values one by one. -/
def addAll (e : Engine) (m : Members) (keys : List Value) : Exec Members := keys.foldlM (add e) m

/-- A set of values in the order in which they are added. -/
def ofValues (e : Engine) (keys : List Value) : Exec Members := addAll e {} keys

/-- Adds all members of another set. -/
def merge (e : Engine) (m other : Members) : Exec Members := do
  if other.used == 0 then pure m
  else
    let m := m.forMerge other
    if m.fill == 0 then pure (m.copied other)
    else other.entries.foldlM (fun m (h, k) => addHashed e m h k) m

/-- Adds all keys of a dictionary. -/
def mergeTable (e : Engine) (m : Members) (t : Table) : Exec Members := do
  let m := if (m.slots.size - 1) * 3 ≤ (m.fill + t.used) * 5 then m.resized ((m.used + t.used) * 2)
    else m
  t.toList.foldlM (fun m x => addHashed e m x.hash x.key) m

/-- A copy of a set, in which its members may stand in another order. -/
def copy (e : Engine) (m : Members) : Exec Members := merge e {} m

/-- Takes out a member with its hash; whether it was there. -/
def discardHashed (e : Engine) (m : Members) (hash : UInt64) (key : Value) :
    Exec (Members × Bool) := do
  match ← Compare.look e m key hash with
  | .at i => pure (m.eraseAt i, true)
  | .free _ => pure (m, false)

/-- The members that are in both of two sets. -/
def meet (e : Engine) (a b : Members) : Exec Members := do
  let (searched, walked) := if a.used < b.used then (b, a) else (a, b)
  walked.entries.foldlM (fun m (h, k) => do
    if ← Compare.isMember e searched k h then addHashed e m h k else pure m) {}

/-- The members of a set that are among values, in the order of these. -/
def meetValues (e : Engine) (a : Members) (keys : List Value) : Exec Members :=
  keys.foldlM (fun m k => do
    let h ← Mapping.hashOf e k
    if ← Compare.isMember e a k h then addHashed e m h k else pure m) {}

/-- Room is made again once more than a quarter of the slots had their members taken out. -/
def tidied (m : Members) : Members :=
  if m.fill - m.used ≤ (m.slots.size - 1) / 4 then m else m.resized (Members.wanted m.used)

/-- Takes out all members of another set. -/
def without (e : Engine) (m other : Members) : Exec Members := do
  let other ← if m.used < other.used / 8 then meet e m other else pure other
  let m ← other.entries.foldlM (fun m (h, k) => return (← discardHashed e m h k).1) m
  pure (tidied m)

/-- Takes out values. -/
def withoutValues (e : Engine) (m : Members) (keys : List Value) : Exec Members := do
  let m ← keys.foldlM (fun m k => do
    return (← discardHashed e m (← Mapping.hashOf e k) k).1) m
  pure (tidied m)

/-- The members of a set that are not in another one, of which the size and a test are known. -/
def difference (e : Engine) (m : Members) (size : Nat)
    (has : UInt64 → Value → Exec Bool) (removed : Members → Exec Members) : Exec Members := do
  if size < m.used / 4 then removed (← copy e m)
  else
    m.entries.foldlM (fun r (h, k) => do
      if ← has h k then pure r else addHashed e r h k) {}

/-- Members that are in one of two sets alone: those of `m` in `other` are taken out of it, and the
others added. -/
def toggle (e : Engine) (m : Members) (entries : List (UInt64 × Value)) : Exec Members :=
  entries.foldlM (fun m (h, k) => do
    let (m, was) ← discardHashed e m h k
    if was then pure m else addHashed e m h k) m

end Bag

end Exemplar.Machine
