import Exemplar.Machine.Code
import Exemplar.Machine.Table
import Exemplar.Raised

/-
  What addresses lead to, and the state of a running program: the store of objects, the variables
  that functions share, what has been written, and how much longer the program may run.
-/

namespace Exemplar.Machine

/-- A function that a program declares. -/
structure Function where
  code : FunctionCode
  name : String
  qualified : String
  /-- The variables of functions around it. -/
  closure : Array Nat := #[]
  /-- Values of the last parameters that take arguments by place. -/
  defaults : List Value := []
  keywordDefaults : Fields := []
  doc : Value := .none
  moduleName : Value := .none
  /-- The dictionary of hints, once there is one. -/
  hints : Option Value := none

/-- A class that a program declares. Its attributes are its names. -/
structure Class where
  name : String
  qualified : String
  bases : List Value
  /-- The class itself and those that it extends, in the order in which they are searched. -/
  lineage : List Value
  /-- The type that decides what the instances hold. -/
  solid : Kind
  /-- Whether instances have names of their own. -/
  hasNames : Bool := true
  /-- Names that instances keep values by without having names of their own. -/
  slots : List String := []
  /-- The classes that extend it directly. -/
  heirs : List Value := []

/-- What an exception holds besides its names. -/
structure Incident where
  args : List Value := []
  /-- What exceptions of its class hold besides. -/
  parts : Fields := []
  context : Value := .none
  cause : Value := .none
  suppressed : Bool := false
  trace : Value := .none

/-- Why a block of code is left before its end. -/
inductive Signal
  | leave
  | again
  | mismatch
  | ret (v : Value)
  | raised (e : Value)

/-- What a block of code is there for, and so what follows its end. -/
inductive BlockKind
  /-- The arm of a branch. -/
  | arm
  | loop (test body orelse : Code)
  | each (iterator : Value) (body orelse : Code)
  /-- An asynchronous loop, which may be waiting for its next item. -/
  | eachAsync (iterator : Value) (waiting : Bool) (body orelse : Code)
  | attempt (handlers orelse : Code)
  | final (code : Code)
  /-- Code that runs at the end of a block, before a signal goes on. -/
  | pending (signal : Option Signal)
  /-- Code that handles an exception. -/
  | handling (e : Value)
  | using (exit : Value) (isAsync : Bool)
  /-- Code with other code for a mismatch, and what had been put aside before it. -/
  | choice (otherwise : Code) (aside : Fields)
  | group (handlers orelse : Code)
  /-- The handlers of a group: the whole, what is left of it and what has been raised. -/
  | sorting (whole rest : Value) (raised : List Value)
  /-- Code that handles a part of a group. -/
  | sorted (part : Value)

/-- A block that has been entered: the stack as it was, and the code behind the block. -/
structure Block where
  kind : BlockKind
  stack : List Value
  rest : Code

/-- A function as far as it has run. -/
structure Frame where
  code : Code
  stack : List Value := []
  blocks : List Block := []
  locals : Array (Option Value) := #[]
  cells : Array Nat := #[]
  /-- Where the names of a file or the body of a class are kept. -/
  names : Option Nat := none
  /-- What patterns have put aside. -/
  aside : Fields := []
  /-- The code that it runs. -/
  owner : FunctionCode := default
  deriving Inhabited

/-- A function that can be suspended. -/
inductive Progress
  | fresh (frame : Frame)
  | suspended (frame : Frame)
  | running
  | finished

structure Generator where
  manner : Manner
  name : String
  qualified : String
  code : FunctionCode
  progress : Progress
  /-- Whether an asynchronous generator has ended. -/
  closed : Bool := false

namespace Block

/-- The exception that is being handled as long as a block runs. -/
def held? (b : Block) : Option Value :=
  match b.kind with
  | .handling e | .pending (some (.raised e)) | .sorting e _ _ | .sorted e => some e
  | _ => none

end Block

/-- What yields values one by one. -/
inductive Iterator
  | done
  | values (items : List Value)
  | counting (next step : Int) (left : Nat)
  /-- The items of a list as it is when they are reached. -/
  | listItems (list next : Nat)
  | listBackward (list : Nat) (next : Int)
  | byteItems (bytes next : Nat)
  /-- The entries of a dictionary, which must not change its size. -/
  | entries (form : ViewForm) (dict next used left : Nat)
  | entriesBackward (form : ViewForm) (dict next used : Nat)
  | members (set next used : Nat)
  /-- The items that a container has for 0, 1, 2 and so on. -/
  | sequence (container : Value) (next : Nat)
  | sequenceBackward (container : Value) (next : Int)
  | numbered (inner : Value) (next : Int)
  | zipped (inner : List Value) (strict : Bool)
  | mapped (function : Value) (inner : List Value)
  | filtered (function inner : Value)
  | called (function sentinel : Value)

/-- What a step of an asynchronous generator does to it. -/
inductive StepKind
  | send (v : Value)
  | throw (e : Value)
  | close

/-- How far a step of an asynchronous generator is. -/
inductive StepProgress
  | fresh | started | ended
  deriving DecidableEq

/-- An attribute by functions that give, set and delete it; one that is missing is none. -/
structure Property where
  get : Value := .none
  set : Value := .none
  erase : Value := .none
  doc : Value := .none
  /-- The name that a class declares it by. -/
  name : Option String := none

/-- The names that an object has of its own. -/
inductive Names
  | absent
  | own (fields : Fields)
  /-- They are a dictionary that the program has seen. -/
  | shared (dict : Nat)

inductive Data
  | plain
  | list (items : Array Value)
  | dict (t : Table)
  | set (m : Members)
  | bytearray (bytes : Array UInt8)
  /-- A bytearray of zeros. -/
  | zeros (size : Nat)
  /-- A value that cannot change, as part of an instance of a class that extends its type. -/
  | boxed (v : Value)
  | function (f : Function)
  | classOf (c : Class)
  | exception (x : Incident)
  | generator (g : Generator)
  | step (generator : Nat) (kind : StepKind) (progress : StepProgress)
  /-- What a coroutine is awaited through. -/
  | awaiting (inner : Value)
  | iterator (i : Iterator)
  | view (dict : Nat)
  | property (p : Property)
  /-- A function that a class declares for itself, or one that takes nothing of it. -/
  | wrapper (f : Value)
  /-- What a class extends, as seen from one of its instances or a class below it. -/
  | super (after self searched : Value)
  | module (name : String)
  /-- The attributes of a class, which cannot be changed through it. -/
  | proxy (cls : Value)
  | code (c : FunctionCode)
  | cell (index : Nat)
  /-- What an instance keeps by a name without having names of its own. -/
  | slot (cls : Value) (name : String)
  /-- A thing of another making, of which its text is known; without one asking for it fails. -/
  | thing (shown : Option String)
  deriving Inhabited

structure Object where
  /-- Its type. -/
  cls : Value
  names : Names := .absent
  data : Data := .plain
  /-- What it keeps by names that its class makes room for. -/
  kept : Fields := []

instance : Inhabited Object := ⟨{ cls := .kind .object }⟩

structure State where
  /-- The first two objects are the globals and the names that need no declaration. -/
  objects : Array Object :=
    #[{ cls := .kind .dict, data := .dict {} }, { cls := .kind .dict, data := .dict {} }]
  /-- Variables that functions share. -/
  cells : Array (Option Value) := #[]
  /-- What has been written, the last piece first. -/
  output : List String := []
  /-- The exceptions being handled, the innermost first. -/
  handled : List Value := []
  /-- Containers whose text is being made. -/
  shown : List Nat := []
  /-- How many values that are no number have been made. -/
  marks : Nat := 0
  /-- The modules that are really imported. -/
  allowed : List String := []
  /-- Modules that have been imported. -/
  modules : List (String × Value) := []
  /-- The variables of the process. -/
  environment : List (String × String) := []
  /-- How many bytes may be in use. -/
  memory : Option Nat := none
  /-- How many more instructions may run. -/
  steps : Nat

/-- The address of the globals. -/
def globals : Nat := 0

/-- The address of the names that need no declaration. -/
def builtins : Nat := 1

/-- Why a program stops. -/
inductive Stop
  | raised (e : Value)
  /-- It has run for too long. -/
  | exhausted
  /-- It has ended the process. -/
  | exit (code : Int)

/-- A computation of the machine; what it did before it stopped stays done. -/
abbrev Exec := EStateM Stop State

namespace Exec

/-- Puts an object into the store. -/
def newObject (o : Object) : Exec Value :=
  modifyGet fun s => (.object s.objects.size, { s with objects := s.objects.push o })

/-- Puts an object of a type into the store. -/
def new (k : Kind) (d : Data) : Exec Value := newObject { cls := .kind k, data := d }

def object (a : Nat) : Exec Object := do return (← get).objects.getD a default

def dataAt (a : Nat) : Exec Data := do return ((← get).objects.getD a default).data

def setData (a : Nat) (d : Data) : Exec Unit :=
  modify fun s => { s with objects := s.objects.modify a fun o => { o with data := d } }

def setKept (a : Nat) (fields : Fields) : Exec Unit :=
  modify fun s => { s with objects := s.objects.modify a fun o => { o with kept := fields } }

/-- Changes what an object holds. -/
def modifyData (a : Nat) (f : Data → Data) : Exec Unit :=
  modify fun s => { s with objects := s.objects.modify a fun o => { o with data := f o.data } }

def setNames (a : Nat) (n : Names) : Exec Unit :=
  modify fun s => { s with objects := s.objects.modify a fun o => { o with names := n } }

def modifyClass (a : Nat) (f : Class → Class) : Exec Unit :=
  modifyData a fun
    | .classOf c => .classOf (f c)
    | d => d

/-- The object that a value leads to. -/
def object? (v : Value) : Exec (Option Object) :=
  match v with
  | .object a => some <$> object a
  | _ => pure none

/-- What a value holds, if it leads to an object. -/
def data? (v : Value) : Exec (Option Data) :=
  match v with
  | .object a => some <$> dataAt a
  | _ => pure none

def newCell (v : Option Value) : Exec Nat :=
  modifyGet fun s => (s.cells.size, { s with cells := s.cells.push v })

def cell (i : Nat) : Exec (Option Value) := do return (← get).cells.getD i none

def setCell (i : Nat) (v : Option Value) : Exec Unit :=
  modify fun s => { s with cells := s.cells.setIfInBounds i v }

/-- Counts one step; a program that has none left is stopped. -/
def tick : Exec Unit := do
  if ← modifyGet fun s => (s.steps == 0, { s with steps := s.steps - 1 }) then throw .exhausted

/-- More steps than the program has left. -/
def fuel : Exec Nat := do return (← get).steps + 1

def write (text : String) : Exec Unit := modify fun s => { s with output := text :: s.output }

/-- A double as a value; what is no number gets an identity of its own. -/
def float (x : Binary64) : Exec Value :=
  if x.isNaN then
    modifyGet fun s =>
      (.float ⟨0x7ff8000000000000 + UInt64.ofNat (s.marks + 1)⟩, { s with marks := s.marks + 1 })
  else pure (.float x)

/-! ### Raising exceptions -/

def incident? (v : Value) : Exec (Option Incident) := do
  match ← data? v with
  | some (.exception x) => pure (some x)
  | _ => pure none

def modifyIncident (v : Value) (f : Incident → Incident) : Exec Unit := do
  match v with
  | .object a => modifyData a fun
    | .exception x => .exception (f x)
    | d => d
  | _ => pure ()

/-- Takes an exception out of the contexts that follow another one, as far as they are looked at. -/
def cutContext (e : Value) : Nat → Value → Exec Unit
  | 0, _ => pure ()
  | n + 1, v => do
    match ← incident? v with
    | some x =>
      if x.context.same e then modifyIncident v fun x => { x with context := .none }
      else cutContext e n x.context
    | none => pure ()

/-- Raises an exception while the innermost one of those being handled is its context. -/
def raiseValue {α : Type} (e : Value) : Exec α := do
  match (← get).handled with
  | h :: _ =>
    if !h.same e then
      cutContext e 1000 h
      modifyIncident e fun x => { x with context := h }
  | [] => pure ()
  throw (.raised e)

/-- Raises an exception of a class that is there without a declaration. -/
def raiseWith {α : Type} (cls : String) (args : List Value) (parts : Fields) : Exec α := do
  raiseValue (← new (.exception cls) (.exception { args := args, parts := parts }))

def raiseArgs {α : Type} (cls : String) (args : List Value) : Exec α := raiseWith cls args []

def raise {α : Type} (cls text : String) : Exec α := raiseArgs cls [.str text]

def typeError {α : Type} (text : String) : Exec α := raise "TypeError" text

def valueError {α : Type} (text : String) : Exec α := raise "ValueError" text

def overflow {α : Type} (text : String) : Exec α := raise "OverflowError" text

def ofRaised {α : Type} (e : Raised) : Exec α :=
  if e.text.isEmpty then raiseArgs e.name [] else raise e.name e.text

def ofExcept {α : Type} : Except Raised α → Exec α
  | .ok a => pure a
  | .error e => ofRaised e

/-- The first of two computations, or what another one makes of an exception that it raises. -/
def catching {α : Type} (m : Exec α) (handle : Value → Exec α) : Exec α :=
  tryCatch m fun stop =>
    match stop with
    | .raised e => handle e
    | _ => throw stop

end Exec

/-- What running a frame comes to. -/
inductive Exit
  | returned (v : Value)
  | yielded (v : Value) (frame : Frame)
  /-- It waits for something outside the program. -/
  | awaiting (v : Value) (frame : Frame)

/-- What operations need of the machine that they are part of: calling a value, running a frame
until it returns or yields, and the operations on parts of a value. -/
structure Engine where
  call : Value → List Value → Fields → Exec Value
  run : Frame → Exec Exit
  /-- The quoted text of a value. -/
  quoted : Value → Exec String
  compare : CompareOp → Value → Value → Exec Value
  hash : Value → Exec UInt64
  /-- The next value of an iterator. -/
  next : Value → Exec (Option Value)

end Exemplar.Machine
