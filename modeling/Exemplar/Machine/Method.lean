import Exemplar.Machine.Method.OnBytes
import Exemplar.Machine.Method.OnKeyed
import Exemplar.Machine.Method.OnList
import Exemplar.Machine.Method.OnNumber
import Exemplar.Machine.Method.OnObject
import Exemplar.Machine.Method.OnText
import Exemplar.Machine.Method.Slot

/-
  Calling what types that are there without a declaration declare by a name: on a value of the type,
  on the type itself, or with the value as the first argument.
-/

namespace Exemplar.Machine.Method

/-- Calls a method of a value that an address leads to. -/
def ofData (e : Engine) (k : Kind) (v : Value) (a : Nat) (d : Data) (p : Passed) : Exec Value := do
  match k, d with
  | .list, .list _ => OnList.call e a p
  | .dict, .dict _ => OnDict.call e a p
  | .set, .set _ | .frozenset, .set _ => OnSet.call e k a p
  | .view form, .view dict => OnDict.onView e v form dict p
  | .mappingProxy, .proxy shown => OnDict.onProxy e shown p
  | .bytearray, .bytearray _ | .bytearray, .zeros _ => OnBytes.callChanging e a p
  | .property, .property old => OnObject.onProperty e v old p
  | _, .generator g => OnGenerator.call e a g p
  | _, .step genAt kind progress => OnGenerator.onStep e a genAt kind progress p
  | _, .awaiting inner =>
    match ← Generator.of? inner with
    | some (b, g) => OnGenerator.call e b g p
    | none => unsupported p.full
  | _, .iterator i => OnGenerator.onIterator e i p
  | .stream, _ => OnStream.call e p
  | .stub, _ => Slot.onStandin e v p.short p.args p.named
  | .module, _ => do listOf ((← OnObject.own v).map .str)
  | .exception "BaseExceptionGroup", .exception _ => OnException.onGroup e v p
  | .exception _, .exception _ => OnException.call e v p
  | _, _ => unsupported p.full

/-- Calls a method of a value that operations of the language do not go through. -/
def ofValue (e : Engine) (k : Kind) (v : Value) (p : Passed) : Exec Value := do
  match k, ← Typing.unboxed v with
  | .object, _ => OnObject.call e k v p
  | .type, t => OnObject.onType e t p
  | .int, .int n => OnNumber.onInt e n p
  | .int, .bool b => OnNumber.onInt e (if b then 1 else 0) p
  | .float, .float x => OnNumber.onFloat e (.float x) x p
  | .complex, .complex a b => OnNumber.onComplex e a b p
  | .str, .str s => if p.short == "__format__" then OnObject.call e k v p else OnText.call e s p
  | .bytes, .bytes b => OnBytes.call e b p
  | .tuple, .tuple items => OnList.onTuple e items p
  | .range, .range a b c => OnList.onRange e a b c p
  | .slice, .slice a b c => OnList.onSlice e a b c p
  | .generic, .generic origin _ => OnObject.onGeneric origin p
  | .union, .union members => OnObject.onUnion e members p
  | k, .object a => do ofData e k v a (← Exec.dataAt a) p
  | _, _ => unsupported p.full

/-- Calls a method that is for a type as a whole. -/
def ofClass (e : Engine) (k : Kind) (cls : Value) (p : Passed) : Exec Value :=
  match k, p.short with
  | .dict, "fromkeys" => OnDict.fromKeys e cls p
  | .int, "from_bytes" => OnNumber.fromBytes e cls p
  | .float, "fromhex" => OnNumber.fromHex e cls p
  | _, "fromhex" => OnBytes.fromHex e cls p
  | _, _ => OnObject.onClass cls p

/-- A call of something that a type declares. -/
def passed (k : Kind) (name : String) (args : List Value) (named : Fields) : Passed :=
  ⟨k.name ++ "." ++ name, name, args, named⟩

/-- Calls what a type declares by a name on a value of it, or on the type for what is for it as a
whole. -/
def call (e : Engine) (self : Value) (k : Kind) (name : String) (args : List Value)
    (named : Fields) : Exec Value := do
  match k.role? name with
  | some .slot => Slot.call e k name self args named
  | some .classMethod => ofClass e k self (passed k name args named)
  | some (.field _) => Field.get self k name
  | _ => ofValue e k self (passed k name args named)

/-! ### With the value as the first argument -/

/-- The type whose rule makes the values of a type. -/
def maker (k : Kind) : Kind :=
  match k with
  | .exception _ =>
    ([Kind.exception "OSError", .exception "BaseExceptionGroup", .exception "MemoryError"].find?
      fun j => k.extends? j).getD (.exception "BaseException")
  | .stub | .stream => .object
  | k => k

/-- Makes a value of the class that is the first argument by the rule of a type. -/
def newValue (e : Engine) (k : Kind) (args : List Value) (named : Fields) : Exec Value := do
  let front := k.word ++ ".__new__("
  match args with
  | [] => Exec.typeError (front ++ "): not enough arguments")
  | cls :: rest =>
    if !(← Typing.isType cls) then
      Exec.typeError (front ++ "X): X is not a type object (" ++ (← Typing.word cls) ++ ")")
    let word ← Typing.name cls
    if !(← Typing.extends? cls (.kind k)) then
      Exec.typeError (front ++ word ++ "): " ++ word ++ " is not a subtype of " ++ k.word)
    let own ← Typing.solid cls
    if maker own != maker k then
      Exec.typeError (front ++ word ++ ") is not safe, use " ++ own.word ++ ".__new__()")
    match k with
    | .type => Classes.ofArguments e cls rest named
    | k => Construct.make e k cls rest named

/-- Calls a function that a type declares. -/
def ofStatic (e : Engine) (k : Kind) (name : String) (args : List Value) (named : Fields) :
    Exec Value :=
  match k, name with
  | .str, "maketrans" => OnText.makeTable e (passed k name args named)
  | _, "maketrans" => OnBytes.callStatic (passed k name args named)
  | _, _ => newValue e k args named

/-- Calls what a type declares by a name with the value that it is called on in front. -/
def unbound (e : Engine) (k : Kind) (name : String) (args : List Value) (named : Fields) :
    Exec Value := do
  let quoted := "descriptor '" ++ name ++ "' "
  match k.role? name, args with
  | some .staticMethod, args => ofStatic e k name args named
  | some (.field _), [v] => Field.get v k name
  | some (.field _), _ => Exec.typeError "'getset_descriptor' object is not callable"
  | some .slot, [] =>
    Exec.typeError (quoted ++ "of '" ++ k.word ++ "' object needs an argument")
  | some .slot, v :: rest =>
    if ← Typing.isA v k then Slot.call e k name v rest named
    else
      Exec.typeError (quoted ++ "requires a '" ++ k.word ++ "' object but received a '" ++
        (← Typing.word v) ++ "'")
  | some .classMethod, [] =>
    Exec.typeError (quoted ++ "of '" ++ k.word ++ "' object needs an argument")
  | some .classMethod, cls :: rest =>
    if !(← Typing.isType cls) then
      Exec.typeError (quoted ++ "for type '" ++ k.word ++ "' needs a type, not a '" ++
        (← Typing.word cls) ++ "' as arg 2")
    if !(← Typing.extends? cls (.kind k)) then
      Exec.typeError (quoted ++ "requires a subtype of '" ++ k.word ++ "' but received '" ++
        (← Typing.name cls) ++ "'")
    ofClass e k cls (passed k name rest named)
  | _, [] =>
    Exec.typeError ("unbound method " ++ k.name ++ "." ++ name ++ "() needs an argument")
  | _, v :: rest =>
    if ← Typing.isA v k then ofValue e k v (passed k name rest named)
    else
      Exec.typeError (quoted ++ "for '" ++ k.word ++ "' objects doesn't apply to a '" ++
        (← Typing.word v) ++ "' object")

end Exemplar.Machine.Method
