import Exemplar.Machine.Item
import Exemplar.Machine.Operate

/-
  Looking for a part of a sequence of characters or bytes, and taking the sequence apart where the
  part stands or where there is nothing but blanks.

  What functions and methods that are there without a declaration take: how many arguments, by
  place or by name, and of which types. A call that does not fit is refused by the name of what is
  called.
-/

namespace Exemplar.Machine.Search

variable {α : Type} [BEq α]

/-- The first place at which a part stands. -/
def first? (part s : List α) : Option Nat := Item.find? part 0 s

/-- The last place at which a part stands. -/
def last? (part s : List α) : Option Nat :=
  (Item.find? part.reverse 0 s.reverse).map fun p => s.length - p - part.length

/-- The pieces between occurrences of a part, after at most so many cuts; `piece` is the piece so
far, backwards. -/
def cut (part : List α) : Nat → Nat → List α → List α → List (List α)
  | 0, _, piece, rest => [piece.reverse ++ rest]
  | _, 0, piece, rest => [piece.reverse ++ rest]
  | fuel + 1, cuts + 1, piece, rest =>
    match rest with
    | [] => [piece.reverse]
    | c :: r =>
      if part.isPrefixOf (c :: r) then
        piece.reverse :: cut part fuel cuts [] (rest.drop part.length)
      else cut part fuel (cuts + 1) (c :: piece) r

/-- Words between blanks, after at most so many cuts; what is left stands last. -/
def words (isBlank : α → Bool) : Nat → Nat → List α → List (List α)
  | 0, _, _ => []
  | fuel + 1, cuts, s =>
    match s.dropWhile isBlank with
    | [] => []
    | c :: r =>
      if cuts == 0 then [c :: r]
      else
        let s := c :: r
        s.takeWhile (fun c => !isBlank c) ::
          words isBlank fuel (cuts - 1) (s.dropWhile fun c => !isBlank c)

/-- How many cuts a number asks for; a negative one asks for all. -/
def cutsOf (s : List α) (n : Int) : Nat := if n < 0 then s.length + 1 else n.toNat

/-- A sequence cut at a separator, or into words. -/
def split (isBlank : α → Bool) (s : List α) (separator : Option (List α)) (cuts : Nat) :
    List (List α) :=
  match separator with
  | some part => cut part (s.length + 1) cuts [] s
  | none => words isBlank (s.length + 1) cuts s

/-- The same from the end. -/
def splitLast (isBlank : α → Bool) (s : List α) (separator : Option (List α)) (cuts : Nat) :
    List (List α) :=
  ((split isBlank s.reverse (separator.map List.reverse) cuts).map List.reverse).reverse

/-- Puts a part before the first so many items, and at the end if there are fewer. -/
def between (new : List α) : Nat → List α → List α
  | 0, r => r
  | _ + 1, [] => new
  | n + 1, c :: r => new ++ c :: between new n r

/-- Replaces occurrences of a part; an empty one stands before every item and at the end. -/
def replace (s old new : List α) (count : Nat) : List α :=
  if old.isEmpty then between new count s
  else new.intercalate (cut old (s.length + 1) count [] s)

/-- Removes items from the ends. -/
def strip (left right : Bool) (drop : α → Bool) (s : List α) : List α :=
  let s := if left then s.dropWhile drop else s
  if right then (s.reverse.dropWhile drop).reverse else s

/-- How often a part stands in a sequence without overlaps. -/
def count (part s : List α) : Nat :=
  if part.isEmpty then s.length + 1
  else (cut part (s.length + 1) (s.length + 1) [] s).length - 1

/-- Where a sequence is parted in three, before, at and behind a part. -/
def partition (atEnd : Bool) (part s : List α) : List (List α) :=
  match if atEnd then last? part s else first? part s with
  | some i => [s.take i, part, s.drop (i + part.length)]
  | none => if atEnd then [[], [], s] else [s, [], []]

/-- The section of a sequence between two places, either of which may count from the end, and where
it starts. Nothing comes of a start behind the end. -/
def section? (s : List α) (start stop : Option Int) : Nat × Option (List α) :=
  let n := s.length
  let low (i : Int) : Nat := (if i < 0 then i + n else i).toNat
  let a := start.elim 0 low
  let b := min n (stop.elim n low)
  (a, if n < a || b < a then none else some ((s.take b).drop a))

/-- A sequence filled up to a width on the left, on the right or on both sides. -/
def fill (method : String) (s : List α) (width : Int) (filler : α) : List α :=
  let missing := width.toNat - s.length
  let line (n : Nat) : List α := List.replicate n filler
  let left := missing / 2 + (if missing % 2 == 1 && width % 2 == 1 then 1 else 0)
  match method with
  | "ljust" => s ++ line missing
  | "rjust" => line missing ++ s
  | _ => line left ++ s ++ line (missing - left)

/-- Zeros between a sign and what stands behind it. -/
def zeroFill (plus minus zero : α) (s : List α) (width : Int) : List α :=
  let zeros := List.replicate (width.toNat - s.length) zero
  match s with
  | c :: r => if c == plus || c == minus then c :: zeros ++ r else zeros ++ s
  | [] => zeros

/-- A sequence without a part that it starts with, or ends with. -/
def removed (atEnd : Bool) (part s : List α) : List α :=
  if atEnd then
    if part.reverse.isPrefixOf s.reverse then s.take (s.length - part.length) else s
  else if part.isPrefixOf s then s.drop part.length else s

end Exemplar.Machine.Search

namespace Exemplar.Machine

/-- What a function or method is called with. -/
structure Passed where
  /-- The name of what is called, with the type that declares it. -/
  full : String
  /-- The name alone. -/
  short : String
  args : List Value
  named : Fields := []

namespace Passed

/-- A number of arguments in words. -/
def counted (n : Nat) (what : String) : String :=
  toString n ++ " " ++ what ++ (if n == 1 then "" else "s")

/-- The argument at a place; none where it is not given. -/
def arg (p : Passed) (place : Nat) : Value := p.args.getD place .none

def arg? (p : Passed) (place : Nat) : Option Value := p.args[place]?

/-- Refuses arguments by name. -/
def byPlace (p : Passed) : Exec Unit :=
  if p.named.isEmpty then pure ()
  else Exec.typeError (p.full ++ "() takes no keyword arguments")

/-- Refuses every argument. -/
def nothing (p : Passed) : Exec Unit := do
  p.byPlace
  if !p.args.isEmpty then
    Exec.typeError (p.full ++ "() takes no arguments (" ++ toString p.args.length ++ " given)")

/-- The only argument. -/
def one (p : Passed) : Exec Value := do
  p.byPlace
  match p.args with
  | [v] => pure v
  | args =>
    Exec.typeError
      (p.full ++ "() takes exactly one argument (" ++ toString args.length ++ " given)")

/-- Refuses fewer or more arguments than a function takes. -/
def between (p : Passed) (low high : Nat) : Exec Unit := do
  p.byPlace
  let n := p.args.length
  let refuse (bound : String) (expected : Nat) : Exec Unit :=
    Exec.typeError (p.short ++ " expected " ++ (if low == high then "" else bound) ++
      counted expected "argument" ++ ", got " ++ toString n)
  if n < low then refuse "at least " low
  else if high < n then refuse "at most " high

/-- The same in other words. -/
def taking (p : Passed) (low high : Nat) : Exec Unit := do
  p.byPlace
  let n := p.args.length
  let refuse (bound : String) (expected : Nat) : Exec Unit :=
    Exec.typeError (p.short ++ "() takes " ++ (if low == high then "exactly " else bound) ++
      counted expected "argument" ++ " (" ++ toString n ++ " given)")
  if n < low then refuse "at least " low
  else if high < n then refuse "at most " high

/-- The arguments for parameters with names, of which the empty ones take arguments by place alone;
the first `least` are needed, and `most` can be given by place. -/
def fill (p : Passed) (names : List String) (least most : Nat) : Exec (List (Option Value)) := do
  let given := p.args.length
  let all := given + p.named.length
  let front := p.short ++ "() "
  if names.length < all then
    Exec.typeError (front ++ "takes at most " ++
      counted names.length (if given == 0 then "keyword argument" else "argument") ++ " (" ++
      toString all ++ " given)")
  if most < given then
    if most == 0 then Exec.typeError (front ++ "takes no positional arguments")
    else
      Exec.typeError (front ++ "takes " ++ (if least < most then "at most " else "exactly ") ++
        counted most "positional argument" ++ " (" ++ toString given ++ " given)")
  let unnamed := min least (names.takeWhile (·.isEmpty)).length
  if given < unnamed then
    Exec.typeError (front ++ "takes " ++ (if unnamed < most then "at least " else "exactly ") ++
      counted unnamed "positional argument" ++ " (" ++ toString given ++ " given)")
  let values := names.zipIdx.map fun (n, i) =>
    if i < given then p.args[i]? else if n.isEmpty then none else p.named.lookup n
  for (n, i) in names.zipIdx do
    if i < least && (values.getD i none).isNone then
      Exec.typeError (front ++ "missing required argument '" ++ n ++ "' (pos " ++
        toString (i + 1) ++ ")")
  for (n, i) in names.zipIdx do
    if i < given && !n.isEmpty && (p.named.lookup n).isSome then
      Exec.typeError ("argument for " ++ p.short ++ "() given by name ('" ++ n ++
        "') and position (" ++ toString (i + 1) ++ ")")
  for (n, _) in p.named do
    if n.isEmpty || !names.contains n then
      Exec.typeError ("'" ++ n ++ "' is an invalid keyword argument for " ++ p.short ++ "()")
  pure values

/-- The type of a value as a refusal of an argument has it. -/
def word (v : Value) : Exec String := if v.isNone then pure "None" else Typing.word v

/-- Refuses an argument of a wrong type. -/
def refuse {α : Type} (p : Passed) (which expected : String) (v : Value) : Exec α := do
  Exec.typeError (p.short ++ "() " ++ which ++ " must be " ++ expected ++ ", not " ++ (← word v))

/-- The text that an argument is. -/
def text (p : Passed) (which : String) (v : Value) : Exec String := do
  match ← Typing.unboxed v with
  | .str s => pure s
  | _ => p.refuse which "str" v

end Passed

namespace Method

/-- Refuses a method that the machine does not carry out. -/
def unsupported {α : Type} (method : String) : Exec α :=
  Exec.raise "NotImplementedError" (method ++ " is not supported")

/-- The size that an argument is, or another one where it is not given. -/
def sizeOr (e : Engine) (otherwise : Int) : Option Value → Exec Int
  | some v => Measure.sizeArgument e v
  | none => pure otherwise

/-- A list of values. -/
def listOf (items : List Value) : Exec Value := Exec.new .list (.list items.toArray)

/-- The bytes of a value that holds some. -/
def bufferOf (v : Value) : Exec (List UInt8) := do
  match ← Compare.bytes? v with
  | some b => pure b
  | none =>
    Exec.typeError ("a bytes-like object is required, not '" ++ (← Typing.word v) ++ "'")

end Method

end Exemplar.Machine
