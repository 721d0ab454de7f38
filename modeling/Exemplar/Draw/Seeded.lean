import Exemplar.Draw.Basic

/-
  Decisions drawn from a seeded generator, with a vocabulary for texts. The generator is the Mersenne
  twister: 624 words of state, renewed together and tempered one at a time, seeded from an integer
  of any size by its 32-bit words.
-/

namespace Exemplar.Twister

/-- The words of the state and the place of the next one to use. -/
structure State where
  words : Array UInt32
  next : Nat

def size : Nat := 624

def at' (a : Array UInt32) (i : Nat) : UInt32 := a.getD i 0

/-- The state grown from one word. -/
def ofWord (seed : UInt32) : Array UInt32 :=
  (List.range (size - 1)).foldl (fun a i =>
    let p := at' a i
    a.push ((1812433253 : UInt32) * (p ^^^ (p >>> 30)) + UInt32.ofNat (i + 1))) #[seed]

/-- One mixing step: word `i` takes in its predecessor, and `extra`. -/
def mix (factor : UInt32) (a : Array UInt32) (i : Nat) (extra : UInt32) : Array UInt32 :=
  let p := at' a (i - 1)
  a.setIfInBounds i ((at' a i ^^^ ((p ^^^ (p >>> 30)) * factor)) + extra)

/-- After the last word comes word one, and the last is copied to the front. -/
def wrap (a : Array UInt32) (i : Nat) : Array UInt32 × Nat :=
  if size ≤ i then (a.setIfInBounds 0 (at' a (size - 1)), 1) else (a, i)

/-- The state grown from a key of at least one word. -/
def ofKey (key : Array UInt32) : State :=
  let first := (List.range (Nat.max size key.size)).foldl (fun (a, i, j) _ =>
    let a := mix 1664525 a i (at' key j + UInt32.ofNat j)
    let (a, i) := wrap a (i + 1)
    (a, i, if key.size ≤ j + 1 then 0 else j + 1)) (ofWord 19650218, 1, 0)
  let second := (List.range (size - 1)).foldl (fun (a, i) _ =>
    let a := mix 1566083941 a i (0 - UInt32.ofNat i)
    wrap a (i + 1)) (first.1, first.2.1)
  ⟨second.1.setIfInBounds 0 0x80000000, size⟩

/-- The 32-bit words of a natural number, least first. -/
def keyOf (n : Nat) : Array UInt32 :=
  if n < 0x100000000 then #[UInt32.ofNat n]
  else #[UInt32.ofNat n] ++ keyOf (n / 0x100000000)
termination_by n
decreasing_by omega

/-- The state for an integer seed; the sign does not count. -/
def ofSeed (seed : Int) : State := ofKey (keyOf seed.natAbs)

/-- All words of the state, renewed. -/
def renew (a : Array UInt32) : Array UInt32 :=
  (List.range size).foldl (fun a i =>
    let y := (at' a i &&& 0x80000000) ||| (at' a ((i + 1) % size) &&& 0x7fffffff)
    let z := at' a ((i + 397) % size) ^^^ (y >>> 1)
    a.setIfInBounds i (if y &&& 1 == 0 then z else z ^^^ 0x9908b0df)) a

def temper (y : UInt32) : UInt32 :=
  let y := y ^^^ (y >>> 11)
  let y := y ^^^ ((y <<< 7) &&& 0x9d2c5680)
  let y := y ^^^ ((y <<< 15) &&& 0xefc60000)
  y ^^^ (y >>> 18)

/-- The next 32 random bits. -/
def word (s : State) : UInt32 × State :=
  let s := if size ≤ s.next then ⟨renew s.words, 0⟩ else s
  (temper (at' s.words s.next), { s with next := s.next + 1 })

/-- `k` random bits, in words of which the first are the lowest. -/
def bits (k : Nat) (s : State) : Nat × State :=
  if k ≤ 32 then
    let (w, s) := word s
    (w.toNat / Nat.pow 2 (32 - k), s)
  else
    let (w, s) := word s
    let (high, s) := bits (k - 32) s
    (w.toNat + high * 0x100000000, s)
termination_by k

/-- The count of binary digits. -/
def bitLength (n : Nat) : Nat := if n == 0 then 0 else Nat.log2 n + 1

/-- Draws `k` bits until they stay below `n`. Each draw does so with a chance of at least one half;
when all tries fail the last draw is reduced. -/
def belowFrom (n k : Nat) : Nat → State → Nat × State
  | 0, s =>
    let (r, s) := bits k s
    (r % n, s)
  | tries + 1, s =>
    let (r, s) := bits k s
    if r < n then (r, s) else belowFrom n k tries s

/-- A number below the positive `n`, all equally likely. -/
def below (n : Nat) (s : State) : Nat × State := belowFrom n (bitLength n) 4096 s

theorem below_lt {n : Nat} (h : 0 < n) (s : State) : (below n s).1 < n := by
  suffices ∀ tries s, (belowFrom n (bitLength n) tries s).1 < n from this _ _
  intro tries
  induction tries with
  | zero => intro s; exact Nat.mod_lt _ h
  | succ t ih =>
    intro s
    simp only [belowFrom]
    split
    · assumption
    · exact ih _

/-- Whether a number drawn evenly from `[0, 1)` with 53 bits lies below one half. -/
def lowHalf (s : State) : Bool × State :=
  let (a, s) := word s
  let (b, s) := word s
  (decide ((a.toNat / Nat.pow 2 5) * Nat.pow 2 26 + b.toNat / Nat.pow 2 6 < Nat.pow 2 52), s)

end Exemplar.Twister

namespace Exemplar

/-- The words that texts are made of. -/
def vocabulary : List String :=
  ["apple", "amber", "anchor", "bamboo", "banana", "beacon", "breeze", "canyon", "cedar", "cherry",
   "comet", "coral", "delta", "ember", "falcon", "fern", "garnet", "glacier", "harbor", "hazel",
   "indigo", "island", "jasper", "juniper", "kettle", "lagoon", "lantern", "lemon", "maple",
   "meadow", "nectar", "nimbus", "oasis", "olive", "orbit", "pebble", "pepper", "quartz", "quill",
   "raven", "river", "saffron", "sparrow", "summit", "thistle", "tulip", "umber", "velvet",
   "violet", "willow", "winter", "yarrow", "zephyr", "foo", "bar", "baz", "hello", "world"]

namespace Seeded

open Twister (State)

/-- The draw of a generator as a draw that never raises. -/
def lift {α : Type} (f : State → α × State) : DrawM State α := ExceptT.lift (StateT.mk f)

/-- An integer from `low` to `high`; there has to be one. -/
def between (low high : Int) : DrawM State Int :=
  let width := high + 1 - low
  if 0 < width then do
    let r ← lift (Twister.below width.toNat)
    pure (low + r)
  else
    throw (.valueError ("empty range for randrange() (" ++ toString low ++ ", " ++
      toString (high + 1) ++ ", " ++ toString width ++ ")"))

/-- An index below `count`; there has to be one. -/
def index (count : Int) : DrawM State Int :=
  if 0 < count then do
    let r ← lift (Twister.below count.toNat)
    pure r
  else throw (.valueError "empty range for randrange()")

/-- A word of the vocabulary; there has to be one. -/
def word (vocabulary : Array String) : DrawM State String :=
  if vocabulary.isEmpty then throw (.indexError "Cannot choose from an empty sequence")
  else do
    let r ← lift (Twister.below vocabulary.size)
    pure (vocabulary.getD r "")

/-- One word, or two with a blank between. -/
def phrase (vocabulary : Array String) : DrawM State String := do
  let size ← between 1 2
  let first ← word vocabulary
  if size == 1 then pure first
  else
    let second ← word vocabulary
    pure (first ++ " " ++ second)

/-- The decisions of a seeded generator over a vocabulary. -/
def draws (vocabulary : Array String) : Draws State where
  words := phrase vocabulary
  integer := between
  boolean := lift Twister.lowHalf
  choice := index
  count := between

end Seeded

end Exemplar
