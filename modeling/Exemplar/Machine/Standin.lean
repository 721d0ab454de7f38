import Exemplar.Datum
import Exemplar.Machine.Run

/-
  Values that come from outside a program, described one by one. A list or dictionary may bear a
  mark by which what is inside refers back to it, so that descriptions of finite size have values
  that hold themselves.

  Programs over stand-ins of modules: imports, and what can be done with their results. Each step
  names the results of earlier ones by their place.
-/

namespace Exemplar.Machine

inductive Given
  | scalar (s : Scalar)
  | complex (re im : Binary64)
  | bytes (b : List UInt8)
  | ellipsis
  | tuple (items : List Given)
  | set (frozen : Bool) (items : List Given)
  | list (mark : Option String) (items : List Given)
  | dict (mark : Option String) (entries : List (Given × Given))
  /-- The container around that bears a mark. -/
  | within (mark : String)
  /-- A thing of a type, with its text if that can be had. -/
  | thing (typeName : String) (shown : Option String)
  | generator (items : List Given)
  /-- A generator of 0, 1, 2 and so on. -/
  | counter
  | coroutine (result : Given)
  | exception (cls : String) (args : List Given)
  /-- The result of an earlier step. -/
  | result (place : Nat)
  | builtin (name : String)
  deriving Inhabited

namespace Given

def ofScalar : Scalar → Value
  | .none => .none
  | .bool b => .bool b
  | .int n => .int n
  | .float x => .float x
  | .str s => .str s

/-- A generator or coroutine that has code to run over one variable, which is 0 at first. -/
def suspended (manner : Manner) (code : Code) : Exec Value := do
  let f := FunctionCode.mk "given" "given" {} manner { locals := ["n"] } .none code
  let frame : Frame := { code := code, locals := #[some (.int 0)], owner := f }
  Exec.new (Call.kindOf manner) (.generator
    { manner := manner, name := "given", qualified := "given", code := f,
      progress := .fresh frame })

/-- Code that yields 0, 1, 2 and so on. -/
def counting : Code :=
  let n : Instr := .load (.own 0) "n"
  [.whileTrue [.const (.bool true)]
    [n, .yield, .drop, n, .const (.int 1), .binary .add, .store (.own 0) "n"] []]

/-- The address that a value is. -/
def addressOf : Value → Nat
  | .object a => a
  | _ => 0

mutual

/-- The value that a description is of; `marks` are the containers around and `results` those of
earlier steps. -/
def build (e : Engine) (results : Array Value) (marks : Fields) : Given → Exec Value
  | .scalar s => pure (ofScalar s)
  | .complex re im => pure (.complex re im)
  | .bytes b => pure (.bytes b)
  | .ellipsis => pure .ellipsis
  | .tuple items => do return .tuple (← buildAll e results marks items)
  | .set frozen items => do
    let m ← Bag.ofValues e (← buildAll e results marks items)
    Exec.new (if frozen then .frozenset else .set) (.set m)
  | .list mark items => do
    let v ← Exec.new .list (.list #[])
    let items ← buildAll e results ((mark.map (·, v)).toList ++ marks) items
    Exec.setData (addressOf v) (.list items.toArray)
    pure v
  | .dict mark entries => do
    let v ← Exec.new .dict (.dict {})
    let pairs ← buildEntries e results ((mark.map (·, v)).toList ++ marks) entries
    for (k, w) in pairs do
      Mapping.put e (addressOf v) k w
    pure v
  | .within mark => pure ((marks.lookup mark).getD .none)
  | .thing typeName shown => Exec.new (.thing typeName) (.thing shown)
  | .generator items => do
    let vs ← buildAll e results marks items
    suspended .generator (vs.flatMap fun v => [.const v, .yield, .drop])
  | .counter => suspended .generator counting
  | .coroutine r => do
    let v ← build e results marks r
    suspended .coroutine [.const v, .ret]
  | .exception cls args => do
    e.call (Value.exceptionType cls) (← buildAll e results marks args) []
  | .result place => pure (results.getD place .none)
  | .builtin name => pure (.builtin name)

def buildAll (e : Engine) (results : Array Value) (marks : Fields) :
    List Given → Exec (List Value)
  | [] => pure []
  | g :: gs => do
    let v ← build e results marks g
    return v :: (← buildAll e results marks gs)

def buildEntries (e : Engine) (results : Array Value) (marks : Fields) :
    List (Given × Given) → Exec (List (Value × Value))
  | [] => pure []
  | (k, v) :: es => do
    let k ← build e results marks k
    let v ← build e results marks v
    return (k, v) :: (← buildEntries e results marks es)

end

end Given

/-- One step with stand-ins. -/
inductive StandinStep
  | make (args : List Given)
  | importModule (name : String) (level : Nat) (names : List String)
  | attribute (on : Nat) (name : String)
  | call (on : Nat) (args : List Given) (named : List (String × Given))
  | item (on : Nat) (key : Given)
  /-- The stand-in as the left operand of `|`. -/
  | orElse (on : Nat) (other : Given)
  /-- The stand-in as the right operand of `|`. -/
  | orBehind (on : Nat) (other : Given)
  /-- A class that extends the result. -/
  | extend (on : Nat) (name : String)

namespace StandinStep

/-- The result of a step. -/
def run (e : Engine) (results : Array Value) : StandinStep → Exec Value
  | .make args => do e.call (.kind .stub) (← Given.buildAll e results [] args) []
  | .importModule name level names => Import.guarded name level !names.isEmpty
  | .attribute on name => Attribute.get e (results.getD on .none) name
  | .call on args named => do
    let args ← Given.buildAll e results [] args
    let named ← named.mapM fun (n, g) => do return (n, ← g.build e results [])
    e.call (results.getD on .none) args named
  | .item on key => do Item.get e (results.getD on .none) (← key.build e results [])
  | .orElse on other => do
    Operate.binary e .bitOr (results.getD on .none) (← other.build e results [])
  | .orBehind on other => do
    Operate.binary e .bitOr (← other.build e results []) (results.getD on .none)
  | .extend on name => do
    Classes.finish e name (← Classes.opening e name [results.getD on .none] []) none

end StandinStep

/-- What a result is seen as. -/
inductive StandinView
  /-- It is the result of an earlier step. -/
  | sameAs (place : Nat)
  | standin (text : String)
  | module (name : String)
  | function
  | lineage (names : List String)
  | value (text : String)

namespace StandinView

/-- How a result is seen after earlier ones, those of steps that failed being absent. -/
def of (e : Engine) (earlier : Array (Option Value)) (v : Value) : Exec StandinView := do
  match earlier.findIdx? fun r => r.any (·.same v) with
  | some i => pure (.sameAs i)
  | none =>
    match v, ← Typing.of v, ← Exec.data? v with
    | _, .kind .stub, _ => return .standin (← e.quoted v)
    | _, _, some (.module name) => pure (.module name)
    | _, _, some (.classOf c) => return .lineage (← c.lineage.mapM Typing.shortName)
    | .builtin _, _, _ => pure .function
    | _, _, _ => return .value (← e.quoted v)

end StandinView

end Exemplar.Machine
