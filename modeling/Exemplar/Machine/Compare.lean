import Exemplar.Machine.Measure

/-
  Comparing values: whether they are equal, and which of two goes before the other. Each type
  answers for its values or says that it has no answer, in which case the other type is asked; two
  values of which neither type has an answer are equal only if they are one.
-/

namespace Exemplar.Machine.Compare

/-- The sign for two operands in the other order. -/
def mirrored : CompareOp → CompareOp
  | .lt => .gt
  | .le => .ge
  | .gt => .lt
  | .ge => .le
  | op => op

/-- The name of the method behind a sign. -/
def methodName : CompareOp → String
  | .lt => "__lt__"
  | .le => "__le__"
  | .gt => "__gt__"
  | .ge => "__ge__"
  | .notEq => "__ne__"
  | _ => "__eq__"

def symbol : CompareOp → String
  | .lt => "<"
  | .le => "<="
  | .gt => ">"
  | .ge => ">="
  | .notEq => "!="
  | _ => "=="

/-- Whether an order of two values is as a sign says. -/
def holds (op : CompareOp) (o : Ordering) : Bool :=
  match op with
  | .lt => o == .lt
  | .le => o != .gt
  | .gt => o == .gt
  | .ge => o != .lt
  | .notEq => o != .eq
  | _ => o == .eq

/-- Whether two values that need no method to be compared are equal. -/
def plainly? : Value → Value → Option Bool
  | .str a, .str b => some (a == b)
  | .int a, .int b => some (a == b)
  | .bool a, .bool b => some (a == b)
  | .bytes a, .bytes b => some (a == b)
  | .none, .none => some true
  | .none, .str _ | .none, .int _ | .str _, .none | .int _, .none => some false
  | .str _, .int _ | .int _, .str _ => some false
  | _, _ => none

/-- Whether two values are one or equal. -/
def equal (e : Engine) (a b : Value) : Exec Bool := do
  match plainly? a b with
  | some r => pure r
  | none => if a.same b then pure true else Measure.truth e (← e.compare .eq a b)

def numbers (op : CompareOp) (a b : Numeric) : Option Value :=
  match op with
  | .eq => some (.bool (a.equal b))
  | .notEq => some (.bool !(a.equal b))
  | op =>
    if a.isComplex || b.isComplex then none
    else some (.bool ((Numeric.order? a b).any (holds op)))

/-- The order of two lists of bytes. -/
def orderOfBytes : List UInt8 → List UInt8 → Ordering
  | [], [] => .eq
  | [], _ => .lt
  | _, [] => .gt
  | a :: as, b :: bs => if a == b then orderOfBytes as bs else compare a b

/-- The first items in which two lists differ, if both go on, with those behind them. -/
def differing? (e : Engine) : List Value → List Value → Exec (Option (Value × Value))
  | a :: as, b :: bs => do
    if ← equal e a b then differing? e as bs else pure (some (a, b))
  | _, _ => pure none

/-- Compares sequences: by the first items that differ, else by their lengths. -/
def sequences (e : Engine) (op : CompareOp) (as bs : List Value) : Exec Value := do
  let isEquality := op == .eq || op == .notEq
  if isEquality && as.length != bs.length then return .bool (op == .notEq)
  match ← differing? e as bs with
  | none => pure (.bool (holds op (compare as.length bs.length)))
  | some (a, b) =>
    match op with
    | .eq => pure (.bool false)
    | .notEq => pure (.bool true)
    | op => e.compare op a b

/-! ### Dictionaries -/

/-- The place of a key in a table, looked for from a slot on. -/
def placeFrom (e : Engine) (t : Table) (key : Value) (hash : UInt64) :
    Nat → UInt64 → Nat → Exec (Option Nat)
  | 0, _, _ => pure none
  | n + 1, rest, i => do
    match t.index.getD i 0 with
    | 0 => pure none
    | k =>
      let found ← match t.entries.getD (k - 2) none with
        | some entry =>
          if k != 1 && entry.hash == hash then equal e entry.key key else pure false
        | none => pure false
      if found then pure (some (k - 2))
      else
        let rest := rest >>> perturbShift
        placeFrom e t key hash n rest (nextSlot t.index.size i rest)

/-- The place of a key with its hash in a table. -/
def placeOf (e : Engine) (t : Table) (key : Value) (hash : UInt64) : Exec (Option Nat) :=
  if t.index.isEmpty then pure none
  else placeFrom e t key hash (Table.reach t.index) hash (homeSlot t.index.size hash)

/-- The value of a key with its hash in a table. -/
def valueOf? (e : Engine) (t : Table) (key : Value) (hash : UInt64) : Exec (Option Value) := do
  return (← placeOf e t key hash).bind fun i => (t.entries.getD i none).map (·.value)

/-- Whether all entries of a table are in another one with equal values. -/
def entriesWithin (e : Engine) (other : Table) : List Entry → Exec Bool
  | [] => pure true
  | x :: xs => do
    match ← valueOf? e other x.key x.hash with
    | none => pure false
    | some v => if ← equal e x.value v then entriesWithin e other xs else pure false

/-! ### Sets -/

/-- What a search for a member comes to: its slot, or the free slot at its end. -/
inductive Found
  | at (slot : Nat)
  | free (slot : Nat)

/-- Looks among some slots from `i` on. -/
def lookNear (e : Engine) (slots : Array Slot) (key : Value) (hash : UInt64) :
    Nat → Nat → Exec (Option Found)
  | 0, _ => pure none
  | n + 1, i => do
    match slots.getD i .free with
    | .free => pure (some (.free i))
    | .deleted => lookNear e slots key hash n (i + 1)
    | .member h k =>
      if h == hash then
        if ← equal e k key then return some (.at i)
      lookNear e slots key hash n (i + 1)

def lookFrom (e : Engine) (slots : Array Slot) (key : Value) (hash : UInt64) :
    Nat → UInt64 → Nat → Exec Found
  | 0, _, i => pure (.free i)
  | n + 1, rest, i => do
    match ← lookNear e slots key hash (Members.near slots.size i) i with
    | some r => pure r
    | none =>
      let rest := rest >>> perturbShift
      lookFrom e slots key hash n rest (nextSlot slots.size i rest)

/-- Looks for a member with its hash. -/
def look (e : Engine) (m : Members) (key : Value) (hash : UInt64) : Exec Found :=
  lookFrom e m.slots key hash (Members.reach m.slots) hash (homeSlot m.slots.size hash)

/-- Whether a member with its hash is in a set. -/
def isMember (e : Engine) (m : Members) (key : Value) (hash : UInt64) : Exec Bool := do
  match ← look e m key hash with
  | .at _ => pure true
  | .free _ => pure false

/-- Whether all members with their hashes are in a set. -/
def allMembers (e : Engine) (m : Members) : List (UInt64 × Value) → Exec Bool
  | [] => pure true
  | (h, k) :: r => do if ← isMember e m k h then allMembers e m r else pure false

/-- Compares sets by what they hold. -/
def sets (e : Engine) (op : CompareOp) (a b : Members) : Exec Value := do
  let within (a b : Members) : Exec Bool :=
    if b.used < a.used then pure false else allMembers e b a.entries
  let equal : Exec Bool := if a.used == b.used then within a b else pure false
  match op with
  | .eq => return .bool (← equal)
  | .notEq => return .bool !(← equal)
  | .le => return .bool (← within a b)
  | .lt => if a.used < b.used then return .bool (← within a b) else pure (.bool false)
  | .ge => return .bool (← within b a)
  | _ => if b.used < a.used then return .bool (← within b a) else pure (.bool false)

/-- The members of a set or of the view of a dictionary that is like one. -/
def likeSet? (v : Value) : Exec (Option (List Value)) := do
  match v with
  | .object a =>
    let o ← Exec.object a
    match o.data with
    | .set m => pure (some m.toList)
    | .view d =>
      match o.cls, ← Exec.dataAt d with
      | .kind (.view .keys), .dict t => pure (some t.keys)
      | .kind (.view .items), .dict t =>
        pure (some (t.toList.map fun x => Value.pair x.key x.value))
      | _, _ => pure none
    | _ => pure none
  | _ => pure none

/-- Whether a set or a view holds a value; that of a view is looked for by its key. -/
def likeSetHas (e : Engine) (v item : Value) : Exec Bool := do
  match v with
  | .object a =>
    let o ← Exec.object a
    match o.data with
    | .set m => isMember e m item (← e.hash item)
    | .view d =>
      match o.cls, ← Exec.dataAt d, item with
      | .kind (.view .keys), .dict t, _ => return (← placeOf e t item (← e.hash item)).isSome
      | _, .dict t, .tuple [k, w] =>
        match ← valueOf? e t k (← e.hash k) with
        | some u => equal e u w
        | none => pure false
      | _, _, _ => pure false
    | _ => pure false
  | _ => pure false

/-- Compares views of dictionaries with what is like a set. -/
def views (e : Engine) (op : CompareOp) (a b : Value) : Exec (Option Value) := do
  match ← likeSet? a, ← likeSet? b with
  | some as, some bs =>
    let within (items : List Value) (v : Value) : Exec Bool := items.allM (likeSetHas e v)
    let r ← match op with
      | .eq | .notEq => pure (as.length == bs.length && (← within as b))
      | .lt => pure (as.length < bs.length && (← within as b))
      | .le => pure (as.length ≤ bs.length && (← within as b))
      | .gt => pure (bs.length < as.length && (← within bs a))
      | _ => pure (bs.length ≤ as.length && (← within bs a))
    pure (some (.bool (if op == .notEq then !r else r)))
  | _, _ => pure none

/-! ### By type -/

/-- The bytes of a value that holds some. -/
def bytes? (v : Value) : Exec (Option (List UInt8)) := do
  match ← Typing.unboxed v with
  | .bytes b => pure (some b)
  | .object a =>
    match ← Exec.dataAt a with
    | .bytearray b => pure (some b.toList)
    | .zeros n => pure (some (List.replicate n 0))
    | _ => pure none
  | _ => pure none

/-- What a type that is there without a declaration answers about two values, the first of which is
of that type. -/
def byKind (e : Engine) (k : Kind) (op : CompareOp) (a b : Value) : Exec (Option Value) := do
  let v ← Typing.unboxed a
  let w ← Typing.unboxed b
  match k, v, w with
  | .str, .str s, .str t => pure (some (.bool (holds op (compare s t))))
  | .str, _, _ => pure none
  | .tuple, .tuple as, .tuple bs => some <$> sequences e op as bs
  | .range, .range a b c, .range d f g =>
    let n := rangeLength a b c
    let alike := n == rangeLength d f g && (n == 0 || a == d && (n == 1 || c == g))
    pure (match op with
      | .eq => some (.bool alike)
      | .notEq => some (.bool !alike)
      | _ => none)
  | .slice, .slice a b c, .slice d f g => some <$> sequences e op [a, b, c] [d, f, g]
  | .bytes, _, _ | .bytearray, _, _ =>
    match ← bytes? a, ← bytes? b with
    | some s, some t => pure (some (.bool (holds op (orderOfBytes s t))))
    | _, _ => pure none
  | .bool, _, _ | .int, _, _ =>
    match Numeric.ofValue? v, Numeric.ofValue? w with
    | some (.int m), some (.int n) => pure (numbers op (.int m) (.int n))
    | _, _ => pure none
  | .float, _, _ =>
    match Numeric.ofValue? v, Numeric.ofValue? w with
    | some _, some (.complex _ _) => pure none
    | some m, some n => pure (numbers op m n)
    | _, _ => pure none
  | .complex, _, _ =>
    match Numeric.ofValue? v, Numeric.ofValue? w with
    | some m, some n => pure (numbers op m n)
    | _, _ => pure none
  | .view _, a, b => views e op a b
  | .generic, .generic o as, .generic p bs =>
    if op != .eq && op != .notEq then pure none
    else
      let r := (← equal e o p) && as.length == bs.length && (← differing? e as bs).isNone
      pure (some (.bool (r == (op == .eq))))
  | .union, .union as, .union bs =>
    if op != .eq && op != .notEq then pure none
    else
      let within (as bs : List Value) := as.allM fun a => bs.anyM fun b => equal e a b
      let r := (← within as bs) && (← within bs as)
      pure (some (.bool (r == (op == .eq))))
  | .method, .bound f s, .bound g t =>
    if op != .eq && op != .notEq then pure none
    else pure (some (.bool ((s.same t && (← equal e f g)) == (op == .eq))))
  | .builtin, .method s j m, .method t k n | .methodWrapper, .method s j m, .method t k n =>
    if op != .eq && op != .notEq then pure none
    else pure (some (.bool ((s.same t && j == k && m == n) == (op == .eq))))
  | .mappingProxy, .object p, w =>
    match ← Exec.dataAt p with
    | .proxy (.object c) =>
      let w ← match ← Exec.data? w with
        | some (.proxy (.object c)) => Typing.dictionary c
        | _ => pure w
      some <$> e.compare op (← Typing.dictionary c) w
    | _ => pure none
  | _, .object x, .object y =>
    match k, ← Exec.dataAt x, ← Exec.dataAt y with
    | .list, .list as, .list bs => some <$> sequences e op as.toList bs.toList
    | .set, .set m, .set n | .frozenset, .set m, .set n => some <$> sets e op m n
    | .dict, .dict s, .dict t =>
      if op != .eq && op != .notEq then pure none
      else
        let r ← if s.used == t.used then entriesWithin e t s.toList else pure false
        pure (some (.bool (r == (op == .eq))))
    | _, _, _ => pure none
  | _, _, _ => pure none

/-- Whether values of a type are compared by what the type says of them. -/
def comparesItself (k : Kind) : Bool := k != .object && k.slots.contains "__eq__"

/-- What a type answers that is there without a declaration, or the type of all things. -/
def ofKind (e : Engine) (k : Kind) (op : CompareOp) (a b : Value) : Exec Value := do
  let own := match k.lineage.find? comparesItself with
    | some k => k
    | none => .object
  if own == .object then
    match op with
    | .eq => pure (if a.same b then .bool true else .notImplemented)
    | .notEq => pure (if a.same b then .bool false else .notImplemented)
    | _ => pure .notImplemented
  else return (← byKind e own op a b).getD .notImplemented

/-- What the type of the first of two values answers. -/
def ask (e : Engine) (t : Value) (op : CompareOp) (a b : Value) : Exec Value := do
  match t with
  | .kind k => ofKind e k op a b
  | t =>
    match ← Typing.declared? t (methodName op) with
    | some (.native .object _) =>
      if op != .notEq then ofKind e .object op a b
      else
        let r ← match ← Typing.declared? t "__eq__" with
          | some (.native k _) => ofKind e k .eq a b
          | _ => return ← answered "__eq__"
        inverted r
    | some (.native k _) => ofKind e k op a b
    | some _ => return (← Typing.callSpecial? e a (methodName op) [b]).getD .notImplemented
    | none => pure .notImplemented
where
  inverted (r : Value) : Exec Value := do
    if r.isNotImplemented then pure r else return .bool !(← Measure.truth e r)
  answered (name : String) : Exec Value := do
    inverted ((← Typing.callSpecial? e a name [b]).getD .notImplemented)

/-- Whether two values differ as the type of all things has it: they do unless the type of the first
finds them equal. -/
def differing (e : Engine) (a b : Value) : Exec Value := do
  let r ← ask e (← Typing.of a) .eq a b
  if r.isNotImplemented then pure r else return .bool !(← Measure.truth e r)

/-- Refuses two values that have no order. -/
def refuse (op : CompareOp) (a b : Value) : Exec Value := do
  Exec.typeError ("'" ++ symbol op ++ "' not supported between instances of '" ++
    (← Typing.word a) ++ "' and '" ++ (← Typing.word b) ++ "'")

/-- What comparing two values gives. The second type is asked first if it extends the first. -/
def answer (e : Engine) (op : CompareOp) (a b : Value) : Exec Value := do
  match a, b with
  | .int m, .int n => pure (.bool (holds op (compare m n)))
  | .str s, .str t => pure (.bool (holds op (compare s t)))
  | a, b =>
    match Numeric.ofValue? a, Numeric.ofValue? b with
    | some m, some n =>
      match numbers op m n with
      | some r => pure r
      | none => refuse op a b
    | _, _ =>
    let t ← Typing.of a
    let u ← Typing.of b
    let reflectedFirst ← if t.same u then pure false else Typing.extends? u t
    if reflectedFirst then
      let r ← ask e u (mirrored op) b a
      if !r.isNotImplemented then return r
    let r ← ask e t op a b
    if !r.isNotImplemented then return r
    if !reflectedFirst then
      let r ← ask e u (mirrored op) b a
      if !r.isNotImplemented then return r
    match op with
    | .eq => pure (.bool (a.same b))
    | .notEq => pure (.bool !(a.same b))
    | op => refuse op a b

end Exemplar.Machine.Compare
