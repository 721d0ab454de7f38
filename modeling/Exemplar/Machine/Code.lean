import Exemplar.Machine.Value

/-
  Code for the machine: instructions on a stack of values. Branches hold the code of their arms,
  loops and handlers that of their bodies, so that code has no addresses and an instruction is
  followed by the list that it stands in front of.
-/

namespace Exemplar.Machine

/-- How an argument of a call is given. -/
inductive Passing
  | plain
  | named (name : String)
  deriving DecidableEq

/-- The parameters of a function by the way in which they take arguments. -/
structure Signature where
  positionalOnly : List String := []
  ordinary : List String := []
  variadic : Option String := none
  keywordOnly : List String := []
  keywordVariadic : Option String := none
  deriving Inhabited

namespace Signature

/-- The parameters that take arguments by place. -/
def positional (s : Signature) : List String := s.positionalOnly ++ s.ordinary

/-- All parameters, in the order of the variables that they are. -/
def all (s : Signature) : List String :=
  s.positional ++ s.keywordOnly ++ s.variadic.toList ++ s.keywordVariadic.toList

end Signature

/-- The variables of a block of code: those that only it sees, the parameters first; its own that
functions inside it see; and those of functions around it. -/
structure Variables where
  locals : List String := []
  cells : List String := []
  free : List String := []
  deriving Inhabited

/-- What calling a function comes to. -/
inductive Manner
  | plain | generator | coroutine | asyncGenerator
  deriving DecidableEq, Inhabited

/-- Where a variable lives. -/
inductive Place
  /-- Among the variables that only the frame sees. -/
  | own (slot : Nat)
  /-- Among those that it shares with functions inside or, if `free`, around it. -/
  | cell (slot : Nat) (free : Bool)
  | global
  /-- Among the names of the body of a class or of the file, then the globals. -/
  | name
  /-- Among the names of the body of a class, then a variable of a function around it. -/
  | nameOrCell (slot : Nat)
  deriving DecidableEq

mutual

inductive Instr
  | const (v : Value)
  | drop
  | duplicate
  /-- Puts copies of the two topmost values on top. -/
  | duplicatePair
  | swap
  /-- Moves the topmost value below the two under it. -/
  | sink
  | load (place : Place) (name : String)
  | store (place : Place) (name : String)
  | delete (place : Place) (name : String)
  | loadAttr (name : String)
  /-- Sets an attribute of the topmost value to the one under it. -/
  | storeAttr (name : String)
  | deleteAttr (name : String)
  | loadItem
  /-- Sets an item: the value, the container and the index are on the stack. -/
  | storeItem
  | deleteItem
  | makeTuple (n : Nat)
  | makeList (n : Nat)
  | makeSet (n : Nat)
  /-- Makes a dictionary of so many keys with values. -/
  | makeDict (n : Nat)
  /-- Makes a set of values that are known beforehand; one that is not frozen is made of one that
  is. -/
  | makeFixedSet (frozen : Bool) (items : List Value)
  | makeSlice
  /-- Adds the topmost value to the list or set under it. -/
  | add
  /-- Adds a key and the value on top of it to the dictionary under them. -/
  | addEntry
  /-- Adds all that the topmost value yields. -/
  | addAll
  /-- Adds the arguments by name of the topmost value, none of them twice. -/
  | addNamed
  | listToTuple
  /-- Puts so many items on the stack, the first on top; with a rest, that is a list. -/
  | unpack (before : Nat) (after : Option Nat)
  | unary (op : UnaryOp)
  | binary (op : BinaryOp)
  /-- The operation of an assignment that keeps its target. -/
  | update (op : BinaryOp)
  | compare (op : CompareOp)
  /-- Goes on with `rest` from the right operand if the comparison holds. -/
  | chain (op : CompareOp) (rest : List Instr)
  | branch (yes no : List Instr)
  /-- Keeps the topmost value if its truth is as given, else drops it for `rest`. -/
  | unless (truth : Bool) (rest : List Instr)
  | call (args : List Passing)
  /-- Calls with the items of a value by place and, where there are any, entries by name. -/
  | callSpread (hasNamed : Bool)
  | makeFunction (f : FunctionCode) (defaults : Nat) (keywordDefaults hints : List String)
      (captured : List Nat)
  | makeClass (name : String) (body : FunctionCode) (captured : List Nat) (args : List Passing)
  | makeClassSpread (name : String) (body : FunctionCode) (captured : List Nat) (hasNamed : Bool)
  | format (conversion : Option Char) (hasSpec : Bool)
  | join (n : Nat)
  | getIter
  | getAsyncIter
  /-- Puts what the next item of an asynchronous iterator is awaited from on top. -/
  | nextAwaitable
  /-- The iterator that a value is awaited through; the method of an asynchronous context that gave
  the value may be told. -/
  | getAwaitable (giver : Option String)
  /-- The iterator that a generator hands over to. -/
  | getYieldFrom
  | forEach (body orelse : List Instr)
  | forEachAsync (body orelse : List Instr)
  /-- Starts the body of an asynchronous loop with the item on top. -/
  | asyncBody (body : List Instr)
  | whileTrue (test body orelse : List Instr)
  /-- Leaves the loop as exhausted unless the topmost value counts as true. -/
  | loopTest (body : List Instr)
  | attempt (body handlers orelse : List Instr)
  | attemptFinally (body final : List Instr)
  | attemptGroup (body handlers orelse : List Instr)
  /-- Takes from the exceptions left those of the topmost value, a class or several. -/
  | splitGroup
  /-- Runs code for the exceptions on top, if there are any. -/
  | handleGroup (body : List Instr)
  /-- Raises what is left of the exceptions and what was raised on the way. -/
  | finishGroup
  /-- Whether the exception being handled is of the topmost value, a class or several. -/
  | matchesHandled
  | loadHandled
  /-- Raises the exception being handled again. -/
  | reraise
  /-- Raises the exception being handled again as it is. -/
  | passOn
  /-- Replaces a context manager by its end and what entering it gives. -/
  | enterContext (isAsync : Bool)
  /-- Runs code in a context whose end is under the topmost value. -/
  | using (isAsync : Bool) (body : List Instr)
  /-- Calls the end of a context without an exception. -/
  | exitPlain
  /-- Calls the end of a context with the exception that is being passed on. -/
  | exitRaised
  /-- Stops the exception that is being passed on if the topmost value counts as true. -/
  | settle
  | raise (withCause : Bool)
  | ret
  | leave
  | again
  | yield
  /-- Sends the topmost value to the iterator under it and yields what that yields. -/
  | yieldFrom
  /-- Tries code that may meet a mismatch, in which case other code runs from the same stack. -/
  | choose (first otherwise : List Instr)
  | mismatch
  /-- A mismatch unless the topmost value counts as true. -/
  | require
  /-- Puts the topmost value aside by a name. -/
  | capture (name : String)
  | loadCapture (name : String)
  /-- Replaces a sequence by its items; with a rest, that is a list. -/
  | matchSequence (before : Nat) (after : Option Nat)
  /-- A mismatch unless the topmost value is a mapping of so many entries at least. -/
  | matchMapping (least : Nat)
  /-- Replaces keys and a mapping by the values and, where asked for, a dictionary of the rest. -/
  | matchKeys (withRest : Bool)
  /-- Replaces a class and a value by parts of the value. -/
  | matchClass (positional : Nat) (names : List String)
  | importModule (name : String) (level : Nat) (names : Option (List String))
  | importFrom (name : String)
  | importStar
  /-- Makes the dictionary of hints of a file or a class, where there is none. -/
  | setupHints
  | storeHint (name : String)

/-- The code of a function. -/
inductive FunctionCode
  | mk (name qualified : String) (signature : Signature) (manner : Manner) (vars : Variables)
      (doc : Value) (body : List Instr)

end

instance : Inhabited Instr := ⟨.drop⟩
instance : Inhabited FunctionCode := ⟨.mk "" "" {} .plain {} .none []⟩

abbrev Code := List Instr

namespace FunctionCode

def name : FunctionCode → String
  | mk n _ _ _ _ _ _ => n

def qualified : FunctionCode → String
  | mk _ q _ _ _ _ _ => q

def signature : FunctionCode → Signature
  | mk _ _ s _ _ _ _ => s

def manner : FunctionCode → Manner
  | mk _ _ _ m _ _ _ => m

def vars : FunctionCode → Variables
  | mk _ _ _ _ v _ _ => v

def doc : FunctionCode → Value
  | mk _ _ _ _ _ d _ => d

def body : FunctionCode → Code
  | mk _ _ _ _ _ _ b => b

end FunctionCode

end Exemplar.Machine
