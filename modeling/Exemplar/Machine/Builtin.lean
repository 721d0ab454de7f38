import Exemplar.Machine.Await
import Exemplar.Machine.Import
import Exemplar.Machine.Method

/-
  Functions that programs can call without a declaration, and the names that they are found by.
  Functions that reach files, run source text or end the process are not among them.
-/

namespace Exemplar.Machine.Builtin

open Method

/-! ### Names -/

/-- The functions. -/
def functions : List String :=
  ["__build_class__", "__import__", "abs", "all", "any", "ascii", "bin", "callable", "chr",
   "delattr", "dir", "divmod", "format", "getattr", "globals", "hasattr", "hash", "hex", "id",
   "isinstance", "issubclass", "iter", "aiter", "len", "locals", "max", "min", "next", "anext",
   "oct", "ord", "pow", "print", "repr", "round", "setattr", "sorted", "sum", "vars"]

/-- Names of values that are neither types nor functions. -/
def constants : Fields :=
  [("None", .none), ("Ellipsis", .ellipsis), ("NotImplemented", .notImplemented),
   ("False", .bool false), ("True", .bool true), ("__debug__", .bool true)]

def documentation : String :=
  "Built-in functions, exceptions, and other objects.\n\n" ++
    "Noteworthy: None is the `nil' object; Ellipsis represents `...' in slices."

/-- What the module of all these names says about itself. -/
def details : Fields :=
  [("__name__", .str "builtins"), ("__doc__", .str documentation), ("__package__", .str ""),
   ("__loader__", .none), ("__spec__", .none)]

/-- All names with what they stand for. -/
def table : Fields :=
  details ++ functions.map (fun n => (n, .builtin n)) ++ constants ++
    Kind.named.map (fun k => (k.name, .kind k)) ++ [("memoryview", .kind (.thing "memoryview"))] ++
    (ExceptionClass.parents.map fun p => (p.1, Value.exceptionType p.1)) ++
    ExceptionClass.aliases.map fun n => (n, Value.exceptionType "OSError")

/-- Whether a program can use a name without declaring it. -/
def isPresent (name : String) : Bool := (table.lookup name).isSome

/-! ### Writing -/

/-- A text that separates or ends what is printed. -/
def printMark (name otherwise : String) (v : Option Value) : Exec String := do
  match v with
  | none | some .none => pure otherwise
  | some v =>
    match ← Typing.unboxed v with
    | .str s => pure s
    | _ => Exec.typeError (name ++ " must be None or a string, not " ++ (← Typing.word v))

def print (e : Engine) (p : Passed) : Exec Value := do
  let given ← Passed.fill { p with args := [] } ["sep", "end", "file", "flush"] 0 0
  let option (i : Nat) : Option Value := given.getD i none
  let target := (option 2).getD .none
  let separator ← printMark "sep" " " (option 0)
  let ending ← printMark "end" "\n" (option 1)
  let isStream ← match target with
    | .none => pure true
    | v => Typing.isA v .stream
  let put (v : Value) : Exec Unit := do
    let send (s : String) : Exec Unit := do
      if isStream then Exec.write s
      else
        let _ ← e.call (← Attribute.get e target "write") [.str s] []
    match v with
    | .str s => send s
    | v =>
      if isStream then Exec.write (← Show.plain e v)
      else
        let f ← Attribute.get e target "write"
        let _ ← e.call f [.str (← Show.plain e v)] []
  for (v, i) in p.args.zipIdx do
    if i != 0 then put (.str separator)
    put v
  put (.str ending)
  if let some w := option 3 then
    if ← Measure.truth e w then
      if !isStream then
        let _ ← e.call (← Attribute.get e target "flush") [] []
  pure .none

/-! ### Numbers -/

def rounded (e : Engine) (p : Passed) : Exec Value := do
  let given ← p.fill ["number", "ndigits"] 1 2
  let v := (given.getD 0 none).getD .none
  let digits := given.getD 1 none
  match ← Typing.special? v "__round__" with
  | none =>
    Exec.typeError ("type " ++ (← Typing.word v) ++ " doesn't define __round__ method")
  | some (.native _ _) => return (← Rounding.plainly? e v digits).getD .none
  | some _ =>
    let args := (digits.filter fun d => !d.isNone).toList
    return (← Typing.callSpecial? e v "__round__" args).getD .none

/-- An integer in a base, marked. -/
def inBase (e : Engine) (base : Nat) (mark : String) (v : Value) : Exec Value := do
  let n ← Measure.index e v
  let digits := String.ofList (Nat.toDigits base n.natAbs)
  pure (.str ((if n < 0 then "-" else "") ++ mark ++ digits))

/-- A power up to multiples of a third number. -/
def powerWithin (e : Engine) (a b m : Value) : Exec Value := do
  if let some r := ← Typing.callProgram? e a "__pow__" [b, m] then
    if !r.isNotImplemented then return r
  match ← Measure.integer? a, ← Measure.integer? b, ← Measure.integer? m with
  | some x, some y, some z => Slot.powerWithin x y z
  | _, _, _ =>
    let numbers ← [a, b, m].mapM Typing.unboxed
    let isFloat : Value → Bool := fun
      | .float _ => true
      | _ => false
    let isComplex : Value → Bool := fun
      | .complex _ _ => true
      | _ => false
    if numbers.any isFloat then
      Exec.typeError "pow() 3rd argument not allowed unless all arguments are integers"
    if numbers.any isComplex then Exec.valueError "complex modulo"
    let words ← [a, b, m].mapM Typing.word
    Exec.typeError ("unsupported operand type(s) for ** or pow(): " ++
      ", ".intercalate (words.map fun w => "'" ++ w ++ "'"))

def power (e : Engine) (p : Passed) : Exec Value := do
  let given ← p.fill ["base", "exp", "mod"] 2 3
  let arg (i : Nat) : Value := (given.getD i none).getD .none
  if (arg 2).isNone then Operate.binaryAs e .pow "** or pow()" (arg 0) (arg 1)
  else powerWithin e (arg 0) (arg 1) (arg 2)

/-! ### Iteration -/

/-- Goes through the items of an iterator with a state, until the step gives none. -/
def walk {σ : Type} (e : Engine) (it : Value) (step : σ → Value → Exec (Except σ σ)) :
    Nat → σ → Exec σ
  | 0, _ => throw .exhausted
  | n + 1, s => do
    match ← e.next it with
    | none => pure s
    | some v =>
      match ← step s v with
      | .ok s => walk e it step n s
      | .error s => pure s

/-- The greatest or least of some items by a key. -/
def extreme (e : Engine) (p : Passed) (op : CompareOp) : Exec Value := do
  if p.args.isEmpty then
    Exec.typeError (p.short ++ " expected at least 1 argument, got 0")
  let given ← Passed.fill { p with args := [] } ["key", "default"] 0 0
  let otherwise := given.getD 1 none
  let key := (given.getD 0 none).getD .none
  let items ← match p.args with
    | [v] => pure v
    | vs =>
      if otherwise.isSome then
        Exec.typeError ("Cannot specify a default for " ++ p.short ++
          "() with multiple positional arguments")
      pure (.tuple vs)
  let it ← Iterate.iter e items
  let better (best : Option (Value × Value)) (v : Value) :
      Exec (Except (Option (Value × Value)) (Option (Value × Value))) := do
    let k ← if key.isNone then pure v else e.call key [v] []
    match best with
    | none => pure (.ok (some (v, k)))
    | some (_, least) =>
      let wins : Bool ← match k, least with
        | .int m, .int n => pure (if op == .gt then decide (n < m) else decide (m < n))
        | _, _ => do Measure.truth e (← e.compare op k least)
      pure (.ok (if wins then some (v, k) else best))
  match ← walk e it better (← Exec.fuel) none, otherwise with
  | some (v, _), _ => pure v
  | none, some v => pure v
  | none, none => Exec.valueError (p.short ++ "() arg is an empty sequence")

def sum (e : Engine) (p : Passed) : Exec Value := do
  let given ← p.fill ["", "start"] 1 2
  let it ← Iterate.iter e ((given.getD 0 none).getD .none)
  let start := (given.getD 1 none).getD (.int 0)
  let refuse (what joined : String) : Exec Unit :=
    Exec.typeError ("sum() can't sum " ++ what ++ " [use " ++ joined ++ ".join(seq) instead]")
  match ← Typing.unboxed start, ← Exec.data? start with
  | .str _, _ => refuse "strings" "''"
  | .bytes _, _ => refuse "bytes" "b''"
  | _, some (.bytearray _) | _, some (.zeros _) => refuse "bytearray" "b''"
  | _, _ => pure ()
  let add (s v : Value) : Exec (Except Value Value) := do
    match s, v with
    | .int m, .int n => pure (.ok (.int (m + n)))
    | s, v => Except.ok <$> Operate.binary e .add s v
  walk e it add (← Exec.fuel) start

/-- Whether some item is true (`truth`), or every item is (`!truth`); the first item that counts as
`truth` settles it and is the last one taken. -/
def settles (e : Engine) (truth : Bool) (v : Value) : Exec Bool := do
  let it ← Iterate.iter e v
  walk e it (fun s v => do
    return if (← Measure.truth e v) == truth then .error truth else .ok s) (← Exec.fuel) !truth

def next (e : Engine) (p : Passed) : Exec Value := do
  p.between 1 2
  let it := p.arg 0
  if !(← Iterate.isIterator it) then
    Exec.typeError ("'" ++ (← Typing.word it) ++ "' object is not an iterator")
  let ask : Exec Value := do
    return (← Typing.callSpecial? e it "__next__" []).getD .none
  match p.arg? 1 with
  | none => ask
  | some otherwise =>
    match ← Typing.absorbing "StopIteration" ask with
    | some v => pure v
    | none => pure otherwise

/-- An asynchronous iterator of a value. -/
def asyncIterator (e : Engine) (v : Value) : Exec Value := do
  match ← Typing.callSpecial? e v "__aiter__" [] with
  | none => Exec.typeError ("'" ++ (← Typing.word v) ++ "' object is not an async iterable")
  | some it =>
    if (← Typing.special? it "__anext__").isNone then
      Exec.typeError ("aiter() returned not an async iterator of type '" ++
        (← Typing.word it) ++ "'")
    pure it

def asyncNext (e : Engine) (p : Passed) : Exec Value := do
  p.between 1 2
  match ← Typing.callSpecial? e (p.arg 0) "__anext__" [] with
  | none =>
    Exec.typeError ("'" ++ (← Typing.word (p.arg 0)) ++ "' object is not an async iterator")
  | some v => pure v

def sorted (e : Engine) (p : Passed) : Exec Value := do
  Passed.between { p with named := [] } 1 1
  let list ← Exec.new .list (.list (← Iterate.array e (p.arg 0)))
  let (key, reverse) ← OnList.order e { p with short := "sort", args := [] }
  if let .object a := list then Sort.list e a key reverse
  pure list

/-! ### Values -/

/-- A number that tells values apart. -/
def identity (v : Value) : Int :=
  match v with
  | .object a => 0x7f0000000000 + 48 * a
  | .int n => 0x7e0000000000 + 32 * n
  | .str s => 0x7d0000000000 + 32 * ((hashOfText s).toNat % 0x100000000 : Nat)
  | .bool b => if b then 0x7c0000000040 else 0x7c0000000020
  | .none => 0x7c0000000060
  | .float x => 0x7b0000000000 + 32 * ((hashOfFloat x).toNat % 0x100000000 : Nat)
  | .kind k => 0x7a0000000000 + 32 * ((hashOfText k.word).toNat % 0x100000000 : Nat)
  | _ => 0x7c0000000080

def ordinal (v : Value) : Exec Value := do
  let ofSize (n : Nat) : Exec Value :=
    Exec.typeError ("ord() expected a character, but string of length " ++ toString n ++ " found")
  match ← Typing.unboxed v with
  | .str s =>
    match s.toList with
    | [c] => pure (.int c.toNat)
    | cs => ofSize cs.length
  | _ =>
    match ← Compare.bytes? v with
    | some [b] => pure (.int b.toNat)
    | some b => ofSize b.length
    | none =>
      Exec.typeError ("ord() expected string of length 1, but " ++ (← Typing.word v) ++ " found")

def character (e : Engine) (v : Value) : Exec Value := do
  let n ← Measure.smallArgument e v
  if n < 0 || 0x110000 ≤ n then Exec.valueError "chr() arg not in range(0x110000)"
  else pure (.str (String.singleton (Char.ofNat n.toNat)))

/-- The names that a value says to have, in order. -/
def names (e : Engine) (v : Value) : Exec Value := do
  match ← Typing.callSpecial? e v "__dir__" [] with
  | none => Exec.typeError "object does not provide __dir__"
  | some w =>
    let list ← Exec.new .list (.list (← Iterate.array e w))
    if let .object a := list then Sort.list e a .none false
    pure list

def vars (e : Engine) (v : Value) : Exec Value := do
  match ← Attribute.get? e v "__dict__" with
  | some d => pure d
  | none => Exec.typeError "vars() argument must have __dict__ attribute"

def iterate (e : Engine) (p : Passed) : Exec Value := do
  p.between 1 2
  match p.arg? 1 with
  | none => Iterate.iter e (p.arg 0)
  | some sentinel =>
    if !(← Slot.isCallable (p.arg 0)) then Exec.typeError "iter(v, w): v must be callable"
    Iterate.make "callable_iterator" (.called (p.arg 0) sentinel)

/-! ### By name -/

/-- Functions of one argument. -/
def ofOne? (e : Engine) (name : String) (v : Value) : Option (Exec Value) :=
  match name with
  | "len" => some do return .int (← Measure.size e v)
  | "repr" => some do return .str (← e.quoted v)
  | "ascii" => some do return .str (Format.asciiText (← e.quoted v))
  | "abs" => some (Rounding.absolute e v)
  | "all" => some do return .bool (← settles e false v)
  | "any" => some do return .bool (← settles e true v)
  | "callable" => some do return .bool (← Slot.isCallable v)
  | "ord" => some (ordinal v)
  | "chr" => some (character e v)
  | "hex" => some (inBase e 16 "0x" v)
  | "oct" => some (inBase e 8 "0o" v)
  | "bin" => some (inBase e 2 "0b" v)
  | "id" => some (pure (.int (identity v)))
  | "hash" => some do return .int (← e.hash v).toInt64.toInt
  | "aiter" => some (asyncIterator e v)
  | _ => none

/-- Calls a function; making classes, and what needs the names of a block of code, is not its
part. -/
def call (e : Engine) (name : String) (args : List Value) (named : Fields) : Exec Value := do
  let p : Passed := ⟨name, name, args, named⟩
  match name with
  | "print" => print e p
  | "max" => extreme e p .gt
  | "min" => extreme e p .lt
  | "sum" => sum e p
  | "sorted" => sorted e p
  | "round" => rounded e p
  | "pow" => power e p
  | "__import__" => Import.ofArguments e args named
  | "next" => next e p
  | "anext" => asyncNext e p
  | "iter" => iterate e p
  | "isinstance" =>
    p.between 2 2
    return .bool (← Instance.isOf e Instance.depth (p.arg 0) (p.arg 1))
  | "issubclass" =>
    p.between 2 2
    return .bool (← Instance.extends? e Instance.depth (p.arg 0) (p.arg 1))
  | "getattr" =>
    p.between 2 3
    let n ← Slot.attributeName (p.arg 1)
    match p.arg? 2 with
    | some v => return (← Attribute.get? e (p.arg 0) n).getD v
    | none => Attribute.get e (p.arg 0) n
  | "hasattr" =>
    p.between 2 2
    return .bool (← Attribute.get? e (p.arg 0) (← Slot.attributeName (p.arg 1))).isSome
  | "setattr" =>
    p.between 3 3
    Attribute.put e (p.arg 0) (← Slot.attributeName (p.arg 1)) (p.arg 2)
    pure .none
  | "delattr" =>
    p.between 2 2
    Attribute.erase e (p.arg 0) (← Slot.attributeName (p.arg 1))
    pure .none
  | "divmod" =>
    p.between 2 2
    Operate.quotient e (p.arg 0) (p.arg 1)
  | "format" =>
    p.between 1 2
    match p.arg? 1 with
    | none => return .str (← Format.value e (p.arg 0) "")
    | some w =>
      match ← Typing.unboxed w with
      | .str spec => return .str (← Format.value e (p.arg 0) spec)
      | _ =>
        Exec.typeError ("format() argument 2 must be str, not " ++ (← Passed.word w))
  | "globals" | "locals" =>
    p.nothing
    pure (.object globals)
  | "vars" | "dir" =>
    p.between 0 1
    match p.arg? 0 with
    | none => if name == "vars" then pure (.object globals) else names e (.object globals)
    | some v => if name == "vars" then vars e v else names e v
  | "__build_class__" => Exec.typeError "__build_class__: not enough arguments"
  | _ =>
    let v ← p.one
    match ofOne? e name v with
    | some r => r
    | none => unsupported name

end Exemplar.Machine.Builtin
