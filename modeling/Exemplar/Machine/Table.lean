import Exemplar.Machine.Number

/-
  Hashes of values that are the same in every run of a program. Equal numbers have equal hashes,
  whatever their types.

  The tables behind dictionaries and sets, which decide the order in which their members are met.

  A dictionary keeps its entries in the order in which they came, holes where some were taken out,
  beside an index of slots that lead to entries by their hashes. A set keeps its members in the
  slots themselves and they are met in the order of the slots. In both, a member takes the slot that
  its hash points to or, if that is taken, another one that is searched by a fixed rule, and a table
  that fills up moves to a larger one.
-/

namespace Exemplar.Machine

/-- The modulus of the hashes of numbers, a prime. -/
def hashModulus : Nat := 0x1fffffffffffffff

/-- An integer as a hash; the one that stands for a failure is passed over. -/
def hashOfInt (n : Int) : UInt64 :=
  let n := if n == -1 then -2 else n
  UInt64.ofNat (n % 0x10000000000000000).toNat

/-- The hash of the number `m / 2 ^ k`: its size up to multiples of the modulus, with its sign.
Twice a number 61 times is that number, as the modulus is `2 ^ 61 - 1`. -/
def hashOfRatio (m : Int) (k : Nat) : UInt64 :=
  let size := m.natAbs * Nat.pow 2 ((61 - k % 61) % 61) % hashModulus
  hashOfInt (if m < 0 then -(size : Int) else size)

/-- The hash of an integer. -/
def hashOfInteger (n : Int) : UInt64 :=
  match n with
  | .ofNat k => if k < 1000000000 then UInt64.ofNat k else hashOfRatio n 0
  | n => hashOfRatio n 0

/-- A hash from the identity of a thing. -/
def hashOfIdentity (n : UInt64) : UInt64 := n * 11400714785074694791

/-- The hash of a text. -/
def hashOfText (s : String) : UInt64 :=
  let h := s.hash
  if h == 0xffffffffffffffff then 0xfffffffffffffffe else h

/-- The hash of a double. -/
def hashOfFloat (x : Binary64) : UInt64 :=
  if x.isNaN then hashOfIdentity x.bits
  else if x.isInfinite then hashOfInt (if x.negative then -314159 else 314159)
  else
    let (m, d) := x.ratio
    hashOfRatio m d.log2

/-- The hash of a complex number. -/
def hashOfComplex (re im : Binary64) : UInt64 :=
  let h := hashOfFloat re + 1000003 * hashOfFloat im
  if h == 0xffffffffffffffff then 0xfffffffffffffffe else h

/-- Mixes the hash of one more item of a tuple into those before. -/
def mixHash (before item : UInt64) : UInt64 :=
  let sum := before + item * 14029467366897019727
  ((sum <<< 31) ||| (sum >>> 33)) * 11400714785074694791

/-- The hash of a tuple from the hashes of its items. -/
def hashOfTuple (items : List UInt64) : UInt64 :=
  let h := items.foldl mixHash 2870177450012600261 +
    (UInt64.ofNat items.length ^^^ (2870177450012600261 ^^^ 3527539))
  if h == 0xffffffffffffffff then 1546275796 else h

/-- The bits of a member's hash spread out, before all of them are put together. -/
def shuffleBits (h : UInt64) : UInt64 :=
  ((h ^^^ (89869747 : UInt64)) ^^^ (h <<< (16 : UInt64))) * 3644798167

/-- The hash of a set that cannot change from the hashes of its members, whatever their order. -/
def hashOfMembers (hashes : List UInt64) : UInt64 :=
  let h := hashes.foldl (fun h m => h ^^^ shuffleBits m) (0 : UInt64)
  let h := h ^^^ ((UInt64.ofNat hashes.length + 1) * 1927868237)
  let h := h ^^^ ((h >>> 11) ^^^ (h >>> 25))
  let h := h * 69069 + 907133923
  if h == 0xffffffffffffffff then 590923713 else h

/-- How far the unused bits of a hash move at each step of a search. -/
def perturbShift : UInt64 := 5

/-- The slot after `i` in a search among `size` slots, `rest` being what is left of the hash. -/
def nextSlot (size i : Nat) (rest : UInt64) : Nat := (i * 5 + rest.toNat + 1) % size

/-- The slot that a hash points to. -/
def homeSlot (size : Nat) (hash : UInt64) : Nat := (hash % UInt64.ofNat size).toNat

/-! ### Entries in order -/

/-- A key of a dictionary with its hash and its value. -/
structure Entry where
  hash : UInt64
  key : Value
  value : Value
  deriving Inhabited

structure Table where
  /-- Zero for a free slot, one for a slot whose entry was taken out, else two more than the place
  of an entry. -/
  index : Array Nat := #[]
  entries : Array (Option Entry) := #[]
  /-- How many entries there are, holes apart. -/
  used : Nat := 0
  /-- How many entries more fit before the table grows. -/
  usable : Nat := 0
  deriving Inhabited

namespace Table

/-- How many entries fit among so many slots. -/
def capacity (size : Nat) : Nat := size * 2 / 3

/-- The number of slots for a table that is to hold `n` things: a power of two above `n - 1` with
its fourth bit set, which is sixteen or more but for eight things. -/
def sizeFor (n : Nat) : Nat := Nat.pow 2 ((((n ||| 8) - 1) ||| 7).log2 + 1)

/-- A free slot for a hash; the number of steps is a bound that is never met. -/
def freeSlot (index : Array Nat) : Nat → UInt64 → Nat → Nat
  | 0, _, i => i
  | n + 1, rest, i =>
    if index.getD i 0 < 2 then i
    else
      let rest := rest >>> perturbShift
      freeSlot index n rest (nextSlot index.size i rest)

/-- How many steps a search may take at most. -/
def reach (index : Array Nat) : Nat := index.size + 16

def claim (index : Array Nat) (hash : UInt64) (place : Nat) : Array Nat :=
  let i := freeSlot index (reach index) hash (homeSlot index.size hash)
  index.setIfInBounds i (place + 2)

/-- The same entries without holes among so many slots. -/
def resized (t : Table) (size : Nat) : Table :=
  let kept := t.entries.filter Option.isSome
  let index := kept.zipIdx.foldl (fun index (entry, i) =>
    match entry with
    | some e => claim index e.hash i
    | none => index) (Array.replicate size 0)
  ⟨index, kept, t.used, capacity size - t.used⟩

/-- A table for so many entries. -/
def sized (n : Nat) : Table := resized {} (sizeFor ((n * 3 + 1) / 2))

/-- Puts a new key at the end; the key must not be in the table. -/
def append (t : Table) (hash : UInt64) (key value : Value) : Table :=
  let t :=
    if t.usable != 0 then t
    else if t.index.isEmpty then t.resized 8
    else t.resized (sizeFor (t.used * 3))
  let ⟨index, entries, used, usable⟩ := t
  let place := entries.size
  ⟨claim index hash place, entries.push (some ⟨hash, key, value⟩), used + 1, usable - 1⟩

/-- Sets the value of the entry at a place. -/
def setAt (t : Table) (place : Nat) (value : Value) : Table :=
  { t with entries := t.entries.modify place fun e => e.map fun e => { e with value := value } }

/-- The slot that leads to a place. -/
def slotOf (index : Array Nat) (place : Nat) : Nat → UInt64 → Nat → Nat
  | 0, _, i => i
  | n + 1, rest, i =>
    if index.getD i 0 == place + 2 then i
    else
      let rest := rest >>> perturbShift
      slotOf index place n rest (nextSlot index.size i rest)

/-- Takes out the entry at a place, which leaves a hole. -/
def eraseAt (t : Table) (place : Nat) : Table :=
  match t.entries.getD place none with
  | none => t
  | some e =>
    let i := slotOf t.index place (reach t.index) e.hash (homeSlot t.index.size e.hash)
    { t with
      index := t.index.setIfInBounds i 1
      entries := t.entries.setIfInBounds place none
      used := t.used - 1 }

/-- Takes out the entry at a place, the last that there is, and all behind it. -/
def eraseLast (t : Table) (place : Nat) : Table :=
  let t := t.eraseAt place
  { t with entries := t.entries.take place }

/-- The entries in order. -/
def toList (t : Table) : List Entry := t.entries.toList.filterMap id

def keys (t : Table) : List Value := t.toList.map (·.key)

def values (t : Table) : List Value := t.toList.map (·.value)

/-- The first entry at a place or behind it, with the place after it. -/
def next? (t : Table) (place : Nat) : Option (Entry × Nat) :=
  let rec go : Nat → Nat → Option (Entry × Nat)
    | 0, _ => none
    | n + 1, i =>
      match t.entries.getD i none with
      | some e => some (e, i + 1)
      | none => go n (i + 1)
  go (t.entries.size - place) place

/-- The last entry before a place, with its own place. -/
def previous? (t : Table) : Nat → Option (Entry × Nat)
  | 0 => none
  | i + 1 =>
    match t.entries.getD i none with
    | some e => some (e, i)
    | none => t.previous? i

/-- The place of the entry of a text, looked for from a slot on. -/
def textPlace (t : Table) (s : String) (hash : UInt64) : Nat → UInt64 → Nat → Option Nat
  | 0, _, _ => none
  | n + 1, rest, i =>
    match t.index.getD i 0 with
    | 0 => none
    | k =>
      let found := match t.entries.getD (k - 2) none with
        | some ⟨h, .str key, _⟩ => k != 1 && h == hash && key == s
        | _ => false
      if found then some (k - 2)
      else
        let rest := rest >>> perturbShift
        t.textPlace s hash n rest (nextSlot t.index.size i rest)

/-- The place of the entry of a text. -/
def findText? (t : Table) (s : String) : Option Nat :=
  if t.index.isEmpty then none
  else
    let h := hashOfText s
    t.textPlace s h (reach t.index) h (homeSlot t.index.size h)

/-- The value of a text. -/
def getText? (t : Table) (s : String) : Option Value :=
  (t.findText? s).bind fun i => (t.entries.getD i none).map (·.value)

/-- Sets the value of a text. -/
def putText (t : Table) (s : String) (v : Value) : Table :=
  match t.findText? s with
  | some i => t.setAt i v
  | none => t.append (hashOfText s) (.str s) v

/-- A table of names. -/
def ofFields (fields : Fields) : Table := fields.foldl (fun t (n, v) => t.putText n v) {}

/-- The names among the keys, with their values. -/
def toFields (t : Table) : Fields :=
  t.toList.filterMap fun e =>
    match e.key with
    | .str s => some (s, e.value)
    | _ => none

end Table

/-! ### Members in slots -/

inductive Slot
  | free
  /-- A member was taken out. -/
  | deleted
  | member (hash : UInt64) (key : Value)
  deriving Inhabited

namespace Slot

def member? : Slot → Option (UInt64 × Value)
  | member h k => some (h, k)
  | _ => none

def isFree : Slot → Bool
  | free => true
  | _ => false

end Slot

structure Members where
  slots : Array Slot := Array.replicate 8 .free
  /-- How many slots are not free. -/
  fill : Nat := 0
  used : Nat := 0
  /-- Where the search for a member to take out starts. -/
  finger : Nat := 0
  deriving Inhabited

namespace Members

/-- The slots that are looked at from `i` on before the search goes elsewhere. -/
def near (size i : Nat) : Nat := if i + 9 < size then 10 else 1

/-- The first free slot among some. -/
def freeAmong (slots : Array Slot) : Nat → Nat → Option Nat
  | 0, _ => none
  | n + 1, i => if (slots.getD i .free).isFree then some i else freeAmong slots n (i + 1)

/-- A free slot in a table without slots whose member was taken out. -/
def freeSlot (slots : Array Slot) : Nat → UInt64 → Nat → Nat
  | 0, _, i => i
  | n + 1, rest, i =>
    match freeAmong slots (near slots.size i) i with
    | some k => k
    | none =>
      let rest := rest >>> perturbShift
      freeSlot slots n rest (nextSlot slots.size i rest)

def reach (slots : Array Slot) : Nat := slots.size + 16

/-- Puts a member that is not there into a table. -/
def putClean (slots : Array Slot) (hash : UInt64) (key : Value) : Array Slot :=
  let i := freeSlot slots (reach slots) hash (homeSlot slots.size hash)
  slots.setIfInBounds i (.member hash key)

/-- The members in order. -/
def entries (m : Members) : List (UInt64 × Value) := m.slots.toList.filterMap Slot.member?

def toList (m : Members) : List Value := m.entries.map (·.2)

/-- The number of slots for more than so many members. -/
def sizeFor (n : Nat) : Nat := if n < 8 then 8 else Nat.pow 2 (n.log2 + 1)

/-- The same members in a table for more than `n` of them. -/
def resized (m : Members) (n : Nat) : Members :=
  let slots := m.entries.foldl (fun s (h, k) => putClean s h k) (Array.replicate (sizeFor n) .free)
  { m with slots := slots, fill := m.used }

/-- How many members a table is made for when it has filled up. -/
def wanted (used : Nat) : Nat := if 50000 < used then used * 2 else used * 4

/-- Puts a member into a free slot; a table that is filled by three fifths grows. -/
def putAt (m : Members) (i : Nat) (hash : UInt64) (key : Value) : Members :=
  let ⟨slots, fill, used, finger⟩ := m
  let size := slots.size
  let m : Members := ⟨slots.setIfInBounds i (.member hash key), fill + 1, used + 1, finger⟩
  if m.fill * 5 < (size - 1) * 3 then m else m.resized (wanted m.used)

/-- Takes out the member in a slot. -/
def eraseAt (m : Members) (i : Nat) : Members :=
  { m with slots := m.slots.setIfInBounds i .deleted, used := m.used - 1 }

/-- The room that is made before all members of another table are added. -/
def forMerge (m other : Members) : Members :=
  if (m.slots.size - 1) * 3 ≤ (m.fill + other.used) * 5 then
    m.resized ((m.used + other.used) * 2)
  else m

/-- The members of another table in an empty one. -/
def copied (m other : Members) : Members :=
  if m.slots.size == other.slots.size && other.fill == other.used then
    { m with slots := other.slots, fill := other.fill, used := other.used }
  else
    { m with
      slots := other.entries.foldl (fun s (h, k) => putClean s h k) m.slots
      fill := other.used
      used := other.used }

/-- The first slot with a member from `i` on, going round once. -/
def occupied? (m : Members) (i : Nat) : Option (Nat × Value) :=
  let rec go : Nat → Nat → Option (Nat × Value)
    | 0, _ => none
    | n + 1, i =>
      match m.slots.getD (i % m.slots.size) .free with
      | .member _ k => some (i % m.slots.size, k)
      | _ => go n (i + 1)
  go m.slots.size i

/-- The first member in slot `i` or behind it, with the slot after it. -/
def next? (m : Members) (i : Nat) : Option (Value × Nat) :=
  let rec go : Nat → Nat → Option (Value × Nat)
    | 0, _ => none
    | n + 1, i =>
      match m.slots.getD i .free with
      | .member _ k => some (k, i + 1)
      | _ => go n (i + 1)
  go (m.slots.size - i) i

end Members

end Exemplar.Machine
