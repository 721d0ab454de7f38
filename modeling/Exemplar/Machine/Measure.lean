import Exemplar.Machine.Typing

/-
  What values come to in the places of a language: whether they count as true, the integer that they
  stand for, how many items they hold, and their hashes.
-/

namespace Exemplar.Machine

/-- The greatest number of items that anything can have. -/
def maxSize : Int := 0x7fffffffffffffff

/-- The number of items of a range. -/
def rangeLength (start stop step : Int) : Nat :=
  if 0 < step then ((stop - start + step - 1) / step).toNat
  else if step < 0 then ((start - stop - step - 1) / -step).toNat
  else 0

namespace Measure

/-! ### Integers -/

def refuseIndex {α : Type} (v : Value) : Exec α := do
  Exec.typeError ("'" ++ (← Typing.word v) ++ "' object cannot be interpreted as an integer")

/-- The integer that a value is, if it is one or an instance of a class that extends them. -/
def integer? (v : Value) : Exec (Option Int) := do
  match v with
  | .object _ => return (← Typing.unboxed v).int?
  | v => pure v.int?

/-- The integer that a value stands for where only one will do. -/
def index? (e : Engine) (v : Value) : Exec (Option Int) := do
  match ← integer? v with
  | some n => pure (some n)
  | none =>
    match ← Typing.callProgram? e v "__index__" [] with
    | none => pure none
    | some w =>
      match ← integer? w with
      | some n => pure (some n)
      | none =>
        Exec.typeError ("__index__ returned non-int (type " ++ (← Typing.word w) ++ ")")

def index (e : Engine) (v : Value) : Exec Int := do
  match v with
  | .int n => pure n
  | v =>
    match ← index? e v with
    | some n => pure n
    | none => refuseIndex v

/-- Refuses an integer that is beyond all sizes. -/
def sized (cls : String) (v : Value) (n : Int) : Exec Int := do
  if maxSize < n || n < -maxSize - 1 then
    Exec.raise cls ("cannot fit '" ++ (← Typing.word v) ++ "' into an index-sized integer")
  else pure n

/-- The integer for a count or place that a value stands for. -/
def sizedIndex (e : Engine) (cls : String) (v : Value) : Exec Int := do
  sized cls v (← index e v)

/-- The integer that an argument of a function is that takes the place of a size. -/
def sizeArgument (e : Engine) (v : Value) : Exec Int := do
  let n ← index e v
  if maxSize < n || n < -maxSize - 1 then
    Exec.overflow "Python int too large to convert to C ssize_t"
  else pure n

/-- The integer that an argument of a function is that takes a small number. -/
def smallArgument (e : Engine) (v : Value) : Exec Int := do
  let n ← index e v
  if 2147483647 < n && n ≤ maxSize then
    Exec.overflow "signed integer is greater than maximum"
  else if n < -2147483648 && -maxSize - 1 ≤ n then
    Exec.overflow "signed integer is less than minimum"
  else if maxSize < n || n < -maxSize - 1 then
    Exec.overflow "Python int too large to convert to C int"
  else pure n

/-! ### Numbers of items -/

/-- The number of items of what a value holds. -/
def dataLength? : Data → Option Nat
  | .list items => some items.size
  | .dict t => some t.used
  | .set m => some m.used
  | .bytearray b => some b.size
  | .zeros n => some n
  | .boxed (.str s) => some s.length
  | .boxed (.bytes b) => some b.length
  | .boxed (.tuple items) => some items.length
  | _ => none

/-- The number of items of a value of a type that is there without a declaration. -/
def length? (v : Value) : Exec (Option Int) := do
  match v with
  | .str s => pure (some s.length)
  | .bytes b => pure (some b.length)
  | .tuple items => pure (some items.length)
  | .range a b c => pure (some (rangeLength a b c))
  | .object a =>
    match ← Exec.dataAt a with
    | .view d => return (dataLength? (← Exec.dataAt d)).map Int.ofNat
    | .proxy (.object c) => return some ((← Typing.namesOf c).length : Int)
    | d => pure ((dataLength? d).map Int.ofNat)
  | _ => pure none

/-- What a declared method answers as a number of items. -/
def lengthFrom (e : Engine) (w : Value) : Exec Nat := do
  let n ← index e w
  if n < 0 then Exec.valueError "__len__() should return >= 0"
  else if maxSize < n then
    Exec.overflow ("cannot fit '" ++ (← Typing.word w) ++ "' into an index-sized integer")
  else pure n.toNat

/-- The number of items of a value, if it has such a number. -/
def size? (e : Engine) (v : Value) : Exec (Option Nat) := do
  match ← Typing.callProgram? e v "__len__" [] with
  | some w => some <$> lengthFrom e w
  | none =>
    match ← length? v with
    | some n =>
      if maxSize < n then Exec.overflow "Python int too large to convert to C ssize_t"
      else pure (some n.toNat)
    | none => pure none

def size (e : Engine) (v : Value) : Exec Nat := do
  match ← size? e v with
  | some n => pure n
  | none => Exec.typeError ("object of type '" ++ (← Typing.word v) ++ "' has no len()")

/-! ### Truth -/

/-- Whether a value of a type that is there without a declaration counts as true. -/
def plainTruth (v : Value) : Exec Bool := do
  match v with
  | .none => pure false
  | .bool b => pure b
  | .int n => pure (n != 0)
  | .float x => pure !x.isZero
  | .complex a b => pure !(a.isZero && b.isZero)
  | .range a b c => pure (rangeLength a b c != 0)
  | v =>
    match ← length? v with
    | some n => pure (n != 0)
    | none => pure true

/-- Whether a value counts as true. -/
def truth (e : Engine) (v : Value) : Exec Bool := do
  match v with
  | .bool b => pure b
  | .object a =>
    match (← Exec.object a).cls with
    | .kind _ => plainTruth v
    | t =>
      match ← Typing.declared? t "__bool__" with
      | some (.native _ _) => plainTruth (← Typing.unboxed v)
      | some _ =>
        match ← Typing.callSpecial? e v "__bool__" [] with
        | some (.bool b) => pure b
        | some w =>
          Exec.typeError ("__bool__ should return bool, returned " ++ (← Typing.word w))
        | none => pure true
      | none =>
        match ← size? e v with
        | some n => pure (n != 0)
        | none => pure true
  | v => plainTruth v

/-! ### Hashes -/

def refuseHash {α : Type} (v : Value) : Exec α := do
  Exec.typeError ("unhashable type: '" ++ (← Typing.word v) ++ "'")

/-- The hash of what a value is by itself. -/
def plainHash (e : Engine) (v : Value) : Exec UInt64 := do
  match v with
  | .str s => pure (hashOfText s)
  | .int n => pure (hashOfInteger n)
  | .bool b => pure (if b then 1 else 0)
  | .float x => pure (hashOfFloat x)
  | .complex a b => pure (hashOfComplex a b)
  | .bytes b => pure (hashOfText (String.ofList (b.map fun c => Char.ofNat c.toNat)))
  | .tuple items => return hashOfTuple (← items.mapM e.hash)
  | .range a b c =>
    let n := rangeLength a b c
    let part (present : Bool) (k : Int) : Exec UInt64 :=
      if present then pure (hashOfInteger k) else e.hash .none
    return hashOfTuple [hashOfInteger n, ← part (n != 0) a, ← part (1 < n) c]
  | .slice _ _ _ => refuseHash v
  | .generic o as => return (← e.hash o) ^^^ hashOfTuple (← as.mapM e.hash)
  | .union ms => return hashOfMembers (← ms.mapM e.hash)
  | .kind k => pure (hashOfText ("type " ++ k.word))
  | .builtin n => pure (hashOfText ("function " ++ n))
  | .native k n => pure (hashOfText (k.word ++ "." ++ n))
  | .method s k n => return (← e.hash (.str (k.word ++ "." ++ n))) ^^^ identity s
  | .bound f s => return identity f ^^^ identity s
  | .none => pure (hashOfIdentity 1)
  | .ellipsis => pure (hashOfIdentity 2)
  | .notImplemented => pure (hashOfIdentity 3)
  | .object a =>
    match ← Exec.dataAt a with
    | .set m => pure (hashOfMembers (m.entries.map (·.1)))
    | .boxed w => e.hash w
    | _ => pure (identity v)
where
  identity : Value → UInt64
    | .object a => hashOfIdentity (UInt64.ofNat (a + 8))
    | _ => hashOfIdentity 4

/-- The hash that a declared method answers. -/
def hashFrom (w : Value) : Exec UInt64 := do
  match ← integer? w with
  | some n =>
    pure (if n ≤ maxSize && -maxSize - 1 ≤ n then hashOfInt n else hashOfInteger n)
  | none => Exec.typeError "__hash__ method should return an integer"

/-- The hash of a value. -/
def hash (e : Engine) (v : Value) : Exec UInt64 := do
  match v with
  | .object a =>
    match (← Exec.object a).cls with
    | .kind k => if k.absent.contains "__hash__" then refuseHash v else plainHash e v
    | t =>
      match ← Typing.declared? t "__hash__" with
      | some (.native .object _) | none =>
        match v with
        | .object _ => pure (plainHash.identity v)
        | v => plainHash e v
      | some (.native _ _) => plainHash e v
      | some .none => refuseHash v
      | some _ =>
        match ← Typing.callSpecial? e v "__hash__" [] with
        | some w => hashFrom w
        | none => plainHash e v
  | v => plainHash e v

end Measure

end Exemplar.Machine
