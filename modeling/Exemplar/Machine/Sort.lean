import Exemplar.Machine.Operate

/-
  Sorting by merging runs. Items that are in order already, or all in falling order, are a run;
  short runs are made longer by inserting items one by one. Runs are merged by powers that follow
  from where they lie, and a merge in which one side keeps winning moves on by leaps. The order of
  the comparisons matters where they contradict one another, and an error leaves the items as far
  as they have come.
-/

namespace Exemplar.Machine.Sort

/-- A key with the item that it stands for. -/
abbrev Keyed := Value × Value

/-- Whether the first of two keys goes before the other. -/
def before (e : Engine) (a b : Value) : Exec Bool := do
  match a, b with
  | .int m, .int n => pure (m < n)
  | .str s, .str t => pure (s < t)
  | a, b => Measure.truth e (← e.compare .lt a b)

/-- A computation that changes a value of a type and keeps it on an error. -/
abbrev Keeping (σ : Type) := ExceptT Stop (StateT σ Exec)

def asking {σ : Type} (m : Exec Bool) : Keeping σ Bool := fun s => do
  let r ← tryCatch (Except.ok <$> m) fun stop => pure (.error stop)
  pure (r, s)

def less {σ : Type} (e : Engine) (a b : Keyed) : Keeping σ Bool := asking (before e a.1 b.1)

instance : Inhabited Keyed := ⟨(.none, .none)⟩

/-! ### Searching -/

/-- Doubles a distance as long as a test holds of it. -/
def leap {σ : Type} (most : Nat) (test : Nat → Keeping σ Bool) :
    Nat → Nat → Nat → Keeping σ (Nat × Nat)
  | 0, last, next => pure (last, next)
  | n + 1, last, next => do
    if next < most then
      if ← test next then leap most test n next (2 * next + 1) else pure (last, next)
    else pure (last, next)

/-- The first place from `low` on, but before `high`, of which a test does not hold. -/
def bisect {σ : Type} (test : Nat → Keeping σ Bool) : Nat → Nat → Nat → Keeping σ Nat
  | 0, _, high => pure high
  | n + 1, low, high => do
    if low < high then
      let middle := low + (high - low) / 2
      if ← test middle then bisect test n (middle + 1) high else bisect test n low middle
    else pure high

/-- How many of `n` places come before the first of which a test does not hold, searched from a
place outward. -/
def search {σ : Type} (test : Nat → Keeping σ Bool) (n hint : Nat) : Keeping σ Nat := do
  if ← test hint then
    let most := n - hint
    let (last, next) ← leap most (fun k => test (hint + k)) n 0 1
    bisect test n (last + hint + 1) (min next most + hint)
  else
    let most := hint + 1
    let (last, next) ← leap most (fun k => do return !(← test (hint - k))) n 0 1
    bisect test n (hint + 1 - min next most) (hint - last)

/-! ### Merging -/

/-- Two runs that are being merged: `i` and `j` bound what is left of them. -/
structure Merge where
  left : Array Keyed
  right : Array Keyed
  i : Nat
  j : Nat
  /-- What has been merged, in the order in which it was. -/
  out : Array Keyed := #[]
  /-- Whether what is left of the right run goes before what is left of the left one. -/
  crossed : Bool := false
  /-- How often one side wins before it moves on by leaps. -/
  patience : Nat

abbrev Merging := Keeping Merge

/-- How a merge goes on. -/
inductive Mode
  /-- One by one, the sides having won so often in a row. -/
  | single (left right : Nat)
  | leaping
  | done

/-- Wins in a row that keep a merge leaping. -/
def leastLeap : Nat := 7

def eager : Merging Unit :=
  modify fun m => { m with patience := if 1 < m.patience then m.patience - 1 else m.patience }

def patient : Merging Unit := modify fun m => { m with patience := m.patience + 1 }

/-- What follows a leap: another one if it was long enough. -/
def afterLeap (k l : Nat) : Merging Mode := do
  if leastLeap ≤ k || leastLeap ≤ l then pure .leaping
  else
    patient
    pure (.single 0 0)

/-- The mode after one side has won some times in a row. -/
def afterWin (count : Nat) (next : Mode) : Merging Mode := do
  if (← get).patience ≤ count then
    patient
    pure .leaping
  else pure next

namespace Upward

/-! Merging from the front; the left run is the shorter one. -/

def takeLeft (k : Nat) : Merging Unit :=
  modify fun m => { m with out := m.out ++ m.left.extract m.i (m.i + k), i := m.i + k }

def takeRight (k : Nat) : Merging Unit :=
  modify fun m => { m with out := m.out ++ m.right.extract m.j (m.j + k), j := m.j + k }

/-- Whether the merge is over: the right run is used up, or one item of the left one is left. -/
def isOver : Merging Bool := do
  let m ← get
  if m.right.size ≤ m.j || m.left.size ≤ m.i then pure true
  else if m.left.size == m.i + 1 then
    set { m with crossed := true }
    pure true
  else pure false

def turn (e : Engine) (mode : Mode) : Merging Mode := do
  let m ← get
  match mode with
  | .done => pure .done
  | .single wonLeft wonRight =>
    if ← less e m.right[m.j]! m.left[m.i]! then
      takeRight 1
      if m.right.size ≤ m.j + 1 then pure .done
      else afterWin (wonRight + 1) (.single 0 (wonRight + 1))
    else
      takeLeft 1
      if ← isOver then pure .done else afterWin (wonLeft + 1) (.single (wonLeft + 1) 0)
  | .leaping =>
    eager
    let key := m.right[m.j]!
    let k ← search (fun p => do return !(← less e key m.left[m.i + p]!)) (m.left.size - m.i) 0
    takeLeft k
    if k != 0 then
      if ← isOver then return .done
    takeRight 1
    let m ← get
    if m.right.size ≤ m.j then return .done
    let key := m.left[m.i]!
    let l ← search (fun p => less e m.right[m.j + p]! key) (m.right.size - m.j) 0
    takeRight l
    if m.right.size ≤ m.j + l then return .done
    takeLeft 1
    if ← isOver then return .done
    afterLeap k l

def start : Merging Mode := do
  takeRight 1
  if ← isOver then pure .done else pure (.single 0 0)

/-- The items as far as they are merged. -/
def result (m : Merge) : Array Keyed :=
  let left := m.left.extract m.i m.left.size
  let right := m.right.extract m.j m.right.size
  m.out ++ (if m.crossed then right ++ left else left ++ right)

end Upward

namespace Downward

/-! Merging from the end; the right run is the shorter one. -/

def takeLeft (k : Nat) : Merging Unit :=
  modify fun m => { m with out := m.out ++ (m.left.extract (m.i - k) m.i).reverse, i := m.i - k }

def takeRight (k : Nat) : Merging Unit :=
  modify fun m => { m with out := m.out ++ (m.right.extract (m.j - k) m.j).reverse, j := m.j - k }

def isOver : Merging Bool := do
  let m ← get
  if m.i == 0 || m.j == 0 then pure true
  else if m.j == 1 then
    set { m with crossed := true }
    pure true
  else pure false

def turn (e : Engine) (mode : Mode) : Merging Mode := do
  let m ← get
  match mode with
  | .done => pure .done
  | .single wonLeft wonRight =>
    if ← less e m.right[m.j - 1]! m.left[m.i - 1]! then
      takeLeft 1
      if m.i == 1 then pure .done
      else afterWin (wonLeft + 1) (.single (wonLeft + 1) 0)
    else
      takeRight 1
      if ← isOver then pure .done else afterWin (wonRight + 1) (.single 0 (wonRight + 1))
  | .leaping =>
    eager
    let key := m.right[m.j - 1]!
    let k ← search (fun p => do return !(← less e key m.left[p]!)) m.i (m.i - 1)
    let k := m.i - k
    takeLeft k
    if m.i == k then return .done
    takeRight 1
    if ← isOver then return .done
    let m ← get
    let key := m.left[m.i - 1]!
    let l ← search (fun p => less e m.right[p]! key) m.j (m.j - 1)
    let l := m.j - l
    takeRight l
    if l != 0 then
      if ← isOver then return .done
    takeLeft 1
    if (← get).i == 0 then return .done
    afterLeap k l

def start : Merging Mode := do
  takeLeft 1
  if ← isOver then pure .done else pure (.single 0 0)

def result (m : Merge) : Array Keyed :=
  let left := m.left.extract 0 m.i
  let right := m.right.extract 0 m.j
  (if m.crossed then right ++ left else left ++ right) ++ m.out.reverse

end Downward

/-- Goes on with a merge to its end; each turn merges an item at least. -/
def goOn (turn : Mode → Merging Mode) : Nat → Mode → Merging Unit
  | _, .done => pure ()
  | 0, _ => pure ()
  | n + 1, mode => do goOn turn n (← turn mode)

/-! ### Runs -/

/-- Some of the items that are being sorted, next to one another. -/
structure Run where
  start : Nat
  size : Nat
  power : Nat := 0
  deriving Inhabited

structure Sorting where
  items : Array Keyed
  patience : Nat := leastLeap

abbrev Sorter := Keeping Sorting

/-- Puts items in the place of those from a place on. -/
def overwrite (start : Nat) (new : Array Keyed) : Sorter Unit :=
  modify fun s =>
    let ⟨items, patience⟩ := s
    ⟨new.size.fold (fun i _ items => items.setIfInBounds (start + i) new[i]!) items, patience⟩

/-- Merges two runs next to each other. -/
def mergeRuns (e : Engine) (a b : Run) : Sorter Unit := do
  let items := (← get).items
  let first := items[b.start]!
  let skipped ← search (fun p => do return !(← less e first items[a.start + p]!)) a.size 0
  let start := a.start + skipped
  let left := items.extract start b.start
  if left.isEmpty then return
  let last := items[b.start - 1]!
  let kept ← search (fun p => less e items[b.start + p]! last) b.size (b.size - 1)
  if kept == 0 then return
  let right := items.extract b.start (b.start + kept)
  let m : Merge := { left := left, right := right, i := 0, j := 0, patience := (← get).patience }
  let fuel := 2 * (left.size + right.size) + 2
  let isUpward := left.size ≤ right.size
  let whole : Merging Unit := do
    if isUpward then goOn (Upward.turn e) fuel (← Upward.start)
    else
      set { m with i := left.size, j := right.size }
      goOn (Downward.turn e) fuel (← Downward.start)
  let (r, m) ← (liftM (whole.run.run m) : Sorter (Except Stop Unit × Merge))
  overwrite start (if isUpward then Upward.result m else Downward.result m)
  modify fun s => { s with patience := m.patience }
  match r with
  | .ok _ => pure ()
  | .error stop => throw stop

/-- The length of the run that starts at a place, and whether it falls. -/
def countRun (e : Engine) (start stop : Nat) : Sorter (Nat × Bool) := do
  if stop ≤ start + 1 then return (1, false)
  let items := (← get).items
  let falls (i : Nat) : Sorter Bool := less e items[i]! items[i - 1]!
  let falling ← falls (start + 1)
  let rec go : Nat → Nat → Sorter Nat
    | 0, i => pure i
    | n + 1, i => do
      if stop ≤ i then pure i
      else if (← falls i) == falling then go n (i + 1) else pure i
  return ((← go (stop - start) (start + 2)) - start, falling)

/-- The place behind all items that do not go behind the pivot. -/
def placeFor (e : Engine) (items : Array Keyed) (pivot : Keyed) :
    Nat → Nat → Nat → Keeping (Array Keyed) Nat
  | 0, low, _ => pure low
  | n + 1, low, high => do
    if high ≤ low then pure low
    else
      let middle := low + (high - low) / 2
      if ← less e pivot items[middle]! then placeFor e items pivot n low middle
      else placeFor e items pivot n (middle + 1) high

/-- Inserts items one by one into the sorted ones in front of them. -/
def insertAll (e : Engine) : Nat → Nat → Keeping (Array Keyed) Unit
  | 0, _ => pure ()
  | n + 1, next => do
    let items ← get
    let pivot := items[next]!
    let place ← placeFor e items pivot (next + 1) 0 next
    modify fun items => (items.eraseIdxIfInBounds next).insertIdxIfInBounds place pivot
    insertAll e n (next + 1)

/-- Makes a run longer, to so many items. -/
def lengthen (e : Engine) (start size wanted : Nat) : Sorter Unit := do
  let part := (← get).items.extract start (start + wanted)
  let (r, part) ← (liftM ((insertAll e (wanted - size) size).run.run part) :
    Sorter (Except Stop Unit × Array Keyed))
  overwrite start part
  match r with
  | .ok _ => pure ()
  | .error stop => throw stop

/-- The length that short runs are brought to, so that their number is close to a power of two. -/
def leastRun : Nat → Nat → Nat → Nat
  | 0, n, rest => n + rest
  | fuel + 1, n, rest => if n < 64 then n + rest else leastRun fuel (n / 2) (max rest (n % 2))

/-- The power of the border between two runs of `n` items: how often the items have to be halved
until the middles of the runs lie in different parts. -/
def power (n : Nat) (a : Run) (size : Nat) : Nat :=
  let rec go : Nat → Nat → Nat → Nat → Nat
    | 0, r, _, _ => r
    | fuel + 1, r, x, y =>
      if n ≤ x then go fuel (r + 1) (2 * (x - n)) (2 * (y - n))
      else if n ≤ y then r + 1
      else go fuel (r + 1) (2 * x) (2 * y)
  let x := 2 * a.start + a.size
  go 70 0 x (x + a.size + size)

/-- Merges the last runs as long as the power of the border before them is greater. -/
def collapse (e : Engine) (p : Nat) : Nat → List Run → Sorter (List Run)
  | 0, runs => pure runs
  | n + 1, b :: a :: rest => do
    if p < a.power then
      mergeRuns e a b
      collapse e p n ({ a with size := a.size + b.size } :: rest)
    else pure (b :: a :: rest)
  | _ + 1, runs => pure runs

/-- Merges all runs, the last one first. -/
def collapseAll (e : Engine) : Nat → List Run → Sorter Unit
  | 0, _ => pure ()
  | n + 1, c :: b :: a :: rest => do
    if a.size < c.size then
      mergeRuns e a b
      collapseAll e n (c :: { a with size := a.size + b.size } :: rest)
    else
      mergeRuns e b c
      collapseAll e n ({ b with size := b.size + c.size } :: a :: rest)
  | n + 1, [b, a] => do
    mergeRuns e a b
    collapseAll e n [{ a with size := a.size + b.size }]
  | _ + 1, _ => pure ()

/-- Finds the runs from a place on and merges them. -/
def runs (e : Engine) (total least : Nat) : Nat → Nat → List Run → Sorter (List Run)
  | 0, _, found => pure found
  | n + 1, start, found => do
    if total ≤ start then return found
    let (size, falling) ← countRun e start total
    if falling then
      overwrite start ((← get).items.extract start (start + size)).reverse
    let wanted := min least (total - start)
    let size ← if size < wanted then
        lengthen e start size wanted
        pure wanted
      else pure size
    let found ← match found with
      | [] => pure []
      | a :: _ =>
        let p := power total a size
        match ← collapse e p total found with
        | a :: rest => pure ({ a with power := p } :: rest)
        | [] => pure []
    runs e total least n (start + size) ({ start := start, size := size } :: found)

/-- Items sorted by their keys, as far as that came, with what stopped it. -/
def keyed (e : Engine) (items : Array Keyed) (reverse : Bool) :
    Exec (Array Keyed × Option Stop) := do
  let n := items.size
  if n < 2 then return (items, none)
  let turned (items : Array Keyed) : Array Keyed := if reverse then items.reverse else items
  let work : Sorter Unit := do
    let found ← runs e n (leastRun 64 n 0) n 0 []
    collapseAll e n found
  let (r, s) ← work.run.run { items := turned items }
  let stop := match r with
    | .ok _ => none
    | .error stop => some stop
  return (turned s.items, stop)

/-- Sorts a list by keys that a function gives. While it is sorted it is empty, and it must stay so;
in the end it holds its items again, sorted as far as that came. -/
def list (e : Engine) (a : Nat) (key : Value) (reverse : Bool) : Exec Unit := do
  match ← Exec.dataAt a with
  | .list items =>
    Exec.setData a (.list #[])
    let restore (items : Array Value) : Exec Unit := Exec.setData a (.list items)
    let keys ← tryCatch (if key.isNone then pure items
      else items.mapM fun v => e.call key [v] []) fun stop => do
        restore items
        throw stop
    let (sorted, stop) ← keyed e (keys.zip items) reverse
    let untouched ← match ← Exec.dataAt a with
      | .list now => pure now.isEmpty
      | _ => pure false
    restore (sorted.map (·.2))
    match stop with
    | some stop => throw stop
    | none => if !untouched then Exec.valueError "list modified during sort"
  | _ => pure ()

end Exemplar.Machine.Sort
