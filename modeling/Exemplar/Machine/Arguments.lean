import Exemplar.Machine.Store

/-
  Giving arguments to parameters: by place, by name, the rest to the parameters that collect, and
  defaults where nothing is given. A call that does not fit is refused with a message that names
  the function and what is wrong.
-/

namespace Exemplar.Machine.Arguments

/-! ### Messages -/

/-- Names in quotes, parted by commas and a last `and`. -/
def listed (names : List String) : String :=
  let quoted := names.map fun n => "'" ++ n ++ "'"
  match quoted.reverse with
  | [] => ""
  | [a] => a
  | [b, a] => a ++ " and " ++ b
  | c :: rest => ", ".intercalate rest.reverse ++ ", and " ++ c

def plural (n : Nat) (word : String) : String := if n == 1 then word else word ++ "s"

/-- The message about parameters that are given nothing. -/
def missing (function kind : String) (names : List String) : String :=
  function ++ "() missing " ++ toString names.length ++ " required " ++ kind ++ " " ++
    plural names.length "argument" ++ ": " ++ listed names

/-- The message about more arguments by place than there are parameters, `optional` of which have a
default. -/
def tooMany (function : String) (parameters optional given keywordOnlyGiven : Nat) : String :=
  let takes :=
    if optional == 0 then toString parameters
    else "from " ++ toString (parameters - optional) ++ " to " ++ toString parameters
  let word := if optional == 0 then plural parameters "argument" else "arguments"
  let were := if given == 1 && keywordOnlyGiven == 0 then " was given" else " were given"
  let extra :=
    if keywordOnlyGiven == 0 then ""
    else " positional " ++ plural given "argument" ++ " (and " ++ toString keywordOnlyGiven ++
      " keyword-only " ++ plural keywordOnlyGiven "argument" ++ ")"
  function ++ "() takes " ++ takes ++ " positional " ++ word ++ " but " ++ toString given ++
    extra ++ were

/-! ### Giving -/

/-- What a call gives to the parameters of a function: those that take one argument each, in order,
what is left over by place, and what is left over by name. -/
structure Given where
  values : Array (Option Value)
  places : List Value := []
  names : Fields := []

/-- Whether a parameter has been given something. -/
def Given.has (g : Given) (i : Nat) : Bool := (g.values.getD i none).isSome

/-- Gives arguments by name; those for which there is no parameter are left over. -/
def giveNamed (function : String) (s : Signature) (parameters : List String) (all : Fields) :
    Given → Fields → Except String Given
  | g, [] => .ok { g with names := g.names.reverse }
  | g, (n, v) :: named =>
    let open? := (parameters.drop s.positionalOnly.length).idxOf? n
    match open? with
    | some i =>
      let place := s.positionalOnly.length + i
      if g.has place then
        .error (function ++ "() got multiple values for argument '" ++ n ++ "'")
      else
        giveNamed function s parameters all
          { g with values := g.values.setIfInBounds place (some v) } named
    | none =>
      if s.keywordVariadic.isSome then
        giveNamed function s parameters all { g with names := (n, v) :: g.names } named
      else
        let byPlaceOnly := s.positionalOnly.filter fun p => (all.lookup p).isSome
        if byPlaceOnly.isEmpty then
          .error (function ++ "() got an unexpected keyword argument '" ++ n ++ "'")
        else
          .error (function ++
            "() got some positional-only arguments passed as keyword arguments: '" ++
            ", ".intercalate byPlaceOnly ++ "'")

/-- The places from `first` on, so many of them, of parameters that have been given nothing. -/
def unset (g : Given) (first count : Nat) : List Nat :=
  ((List.range count).map (first + ·)).filter fun i => !g.has i

/-- The arguments that the parameters of a function are given, or the message about a call that does
not fit. -/
def give (f : Function) (args : List Value) (named : Fields) : Except String Given := do
  let s := f.code.signature
  let function := f.qualified
  let positional := s.positional
  let count := positional.length
  let given := args.length
  let total := count + s.keywordOnly.length
  let start : Given :=
    { values := ((args.take count).map some).toArray ++
        Array.replicate (total - min count given) none
      places := args.drop count }
  let g ←
    if named.isEmpty then pure start
    else giveNamed function s (positional ++ s.keywordOnly) named start named
  if count < given && s.variadic.isNone then
    let keywordOnlyGiven := s.keywordOnly.length - (unset g count s.keywordOnly.length).length
    throw (tooMany function count f.defaults.length given keywordOnlyGiven)
  let needed := count - f.defaults.length
  let nameAt (i : Nat) : String := (positional ++ s.keywordOnly).getD i ""
  let lacking := unset g 0 needed
  if !lacking.isEmpty then throw (missing function "positional" (lacking.map nameAt))
  let defaults := f.defaults.drop (f.defaults.length - count)
  let g := (unset g needed (count - needed)).foldl (fun g i =>
    { g with values := g.values.setIfInBounds i defaults[i - needed]? }) g
  let g := (unset g count s.keywordOnly.length).foldl (fun g i =>
    { g with values := g.values.setIfInBounds i (f.keywordDefaults.lookup (nameAt i)) }) g
  let lacking := unset g count s.keywordOnly.length
  if !lacking.isEmpty then throw (missing function "keyword-only" (lacking.map nameAt))
  pure g

/-- Whether all parameters take one argument by place each and are given it. -/
def isPlain (f : Function) (args : List Value) (named : Fields) : Bool :=
  match f.code.signature with
  | ⟨[], ordinary, none, [], none⟩ => named.isEmpty && ordinary.length == args.length
  | _ => false

/-- The values that the parameters of a function start with, in the order of its variables. -/
def bind (f : Function) (args : List Value) (named : Fields) : Exec (Array (Option Value)) := do
  if isPlain f args named then return (args.map some).toArray
  match give f args named with
  | .error m => Exec.typeError m
  | .ok g =>
    let s := f.code.signature
    let places := if s.variadic.isSome then #[some (Value.tuple g.places)] else #[]
    let names ← match s.keywordVariadic with
      | some _ => do
        let d ← Exec.new .dict (.dict (.ofFields g.names))
        pure #[some d]
      | none => pure #[]
    pure (g.values ++ places ++ names)

end Exemplar.Machine.Arguments
