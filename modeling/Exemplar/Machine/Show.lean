import Exemplar.Decimal.Binary64
import Exemplar.Decimal.Numeral
import Exemplar.Machine.Typing

/-
  Values as text: quoted, as a program shows them to a programmer, and plain, as it shows them to a
  reader. A container inside itself is cut to dots.
-/

namespace Exemplar.Machine.Show

def intText (n : Int) : Exec String :=
  if Decimal.isLong n then Exec.valueError Decimal.longIntegerMessage else pure (toString n)

/-- An address as a program shows it. -/
def addressText (a : Nat) : String :=
  "0x" ++ String.ofList (Nat.toDigits 16 (0x7f0000000000 + 48 * a))

/-- Where a value is, as a program shows it. -/
def placeText : Value → String
  | .object a => addressText a
  | _ => addressText 0

/-- The text that a computation makes of a container, cut to dots inside the container itself. -/
def within (a : Nat) (dots : String) (make : Exec String) : Exec String := do
  if (← get).shown.contains a then pure dots
  else
    modify fun s => { s with shown := a :: s.shown }
    let leave : Exec Unit := modify fun s => { s with shown := s.shown.erase a }
    let text ← tryCatch make fun stop => do
      leave
      throw stop
    leave
    pure text

/-- A text that a declared method made. -/
def textOf (method : String) (v : Value) : Exec String := do
  match v with
  | .str s => pure s
  | v =>
    match ← Typing.unboxed v with
    | .str s => pure s
    | _ => Exec.typeError (method ++ " returned non-string (type " ++ (← Typing.word v) ++ ")")

def listed (e : Engine) (vs : List Value) : Exec String := do
  return ", ".intercalate (← vs.mapM e.quoted)

def tupleText (e : Engine) (vs : List Value) : Exec String := do
  match vs with
  | [v] => return "(" ++ (← e.quoted v) ++ ",)"
  | _ => return "(" ++ (← listed e vs) ++ ")"

/-- The name of a type with its module. -/
def typeName (t : Value) : Exec String := do
  match t with
  | .kind k => pure k.fullName
  | .object a =>
    let name ← Typing.qualifiedName t
    match ← Typing.ownName? a "__module__" with
    | some (.str m) => pure (if m == "builtins" then name else m ++ "." ++ name)
    | _ => pure name
  | _ => pure "object"

/-- A type inside another one, as in a list of numbers. -/
def typeItem (e : Engine) (v : Value) : Exec String := do
  match v with
  | .ellipsis => pure "..."
  | v => if ← Typing.isType v then typeName v else e.quoted v

/-- The same where several types are alternatives. -/
def alternative (e : Engine) (v : Value) : Exec String := do
  match v with
  | .kind .none => pure "None"
  | v => typeItem e v

/-- Bytes that may change between quotes: a single quote inside is always escaped. -/
def bytearrayText (name : String) (bytes : List UInt8) : String :=
  let q := Text.quoteFor (bytes.map fun b => Char.ofNat b.toNat)
  name ++ "(b" ++ String.ofList (q :: bytes.flatMap (Text.quoteByte '\'') ++ [q]) ++ ")"

/-- The entries of a dictionary in braces. -/
def entriesText (e : Engine) (t : Table) : Exec String := do
  let texts ← t.toList.mapM fun x => do
    return (← e.quoted x.key) ++ ": " ++ (← e.quoted x.value)
  return "\x7b" ++ ", ".intercalate texts ++ "\x7d"

/-- The quoted text of an exception: its class with its arguments. -/
def incidentText (e : Engine) (v : Value) (args : List Value) : Exec String := do
  let name ← Typing.shortName (← Typing.of v)
  match args with
  | [w] => return name ++ "(" ++ (← e.quoted w) ++ ")"
  | _ => return name ++ (← tupleText e args)

def viewItems (form : ViewForm) (t : Table) : List Value :=
  match form with
  | .keys => t.keys
  | .values => t.values
  | .items => t.toList.map fun x => Value.pair x.key x.value

/-- The name of a function or method. -/
def functionName (f : Value) : Exec String := do
  match f with
  | .builtin n => pure ((n.splitOn ".").getLastD n)
  | .native k n => pure (k.word ++ "." ++ n)
  | .method _ _ n => pure n
  | f =>
    match ← Exec.data? f with
    | some (.function f) => pure f.qualified
    | some (.classOf c) => pure c.qualified
    | _ => pure "?"

/-- The text of an object that says no more than its type. -/
def objectText (v : Value) : Exec String := do
  return "<" ++ (← typeName (← Typing.of v)) ++ " object at " ++ placeText v ++ ">"

/-- The quoted text of what an object holds. -/
def ofData (e : Engine) (a : Nat) (o : Object) : Exec String := do
  let v : Value := .object a
  let suffix := " at " ++ addressText a ++ ">"
  match o.data with
  | .list items => within a "[...]" do return "[" ++ (← listed e items.toList) ++ "]"
  | .dict t => within a "\x7b...\x7d" (entriesText e t)
  | .view d =>
    match o.cls, ← Exec.dataAt d with
    | .kind (.view form), .dict t =>
      within a "..." do
        return (Kind.view form).word ++ "([" ++ (← listed e (viewItems form t)) ++ "])"
    | _, _ => objectText v
  | .set m =>
    let name ← Typing.name o.cls
    within a (name ++ "(...)") do
      if m.used == 0 then return name ++ "()"
      let members := "\x7b" ++ (← listed e m.toList) ++ "\x7d"
      return if name == "set" then members else name ++ "(" ++ members ++ ")"
  | .bytearray b => return bytearrayText (← Typing.shortName o.cls) b.toList
  | .zeros n => return bytearrayText (← Typing.shortName o.cls) (List.replicate n 0)
  | .boxed w => e.quoted w
  | .function f => pure ("<function " ++ f.qualified ++ suffix)
  | .classOf _ => return "<class '" ++ (← typeName v) ++ "'>"
  | .exception x => incidentText e v x.args
  | .generator g =>
    let word := match g.manner with
      | .coroutine => "coroutine"
      | .asyncGenerator => "async_generator"
      | _ => "generator"
    pure ("<" ++ word ++ " object " ++ g.qualified ++ suffix)
  | .module name => pure ("<module '" ++ name ++ "' (built-in)>")
  | .proxy (.object c) =>
    return "mappingproxy(" ++ (← entriesText e (.ofFields (← Typing.namesOf c))) ++ ")"
  | .wrapper f => return "<" ++ (← Typing.name o.cls) ++ "(" ++ (← e.quoted f) ++ ")>"
  | .super after self searched =>
    let front := "<super: <class '" ++ (← Typing.name after) ++ "'>, "
    if self.isNone then return front ++ "NULL>"
    return front ++ "<" ++ (← Typing.name searched) ++ " object>>"
  | .slot c n =>
    let word := if o.cls.same (.kind .memberDescriptor) then "member" else "attribute"
    return "<" ++ word ++ " '" ++ n ++ "' of '" ++ (← Typing.name c) ++ "' objects>"
  | .code c => pure ("<code object " ++ c.name ++ " at " ++ addressText a ++ ", file \"\", line 1>")
  | .cell i =>
    match ← Exec.cell i with
    | none => pure ("<cell at " ++ addressText a ++ ": empty>")
    | some w =>
      return "<cell at " ++ addressText a ++ ": " ++ (← Typing.word w) ++ " object at " ++
        placeText w ++ ">"
  | .thing (some text) => pure text
  | .thing none => Exec.raise "RuntimeError" "no repr"
  | _ => objectText v

/-- The quoted text of a stand-in: its name. -/
def stubText (e : Engine) (a : Nat) : Exec String := do
  match ← Typing.ownName? a "_name" with
  | some (.str s) => pure ("<stub " ++ s ++ ">")
  | some v => return "<stub " ++ (← textOf "__str__" (← e.call (.kind .str) [v] [])) ++ ">"
  | none => Exec.raise "AttributeError" "_name"

/-- The quoted text of a value of a type that is there without a declaration. -/
def plainly (e : Engine) (v : Value) : Exec String := do
  match v with
  | .none => pure "None"
  | .ellipsis => pure "Ellipsis"
  | .notImplemented => pure "NotImplemented"
  | .bool b => pure (if b then "True" else "False")
  | .int n => intText n
  | .float x => pure (Decimal.floatText x)
  | .complex re im => pure (Decimal.complexText re im)
  | .str s => pure (Text.quote s)
  | .bytes b => pure (Text.quoteBytes b)
  | .tuple items => tupleText e items
  | .range a b step =>
    let bounds := (← intText a) ++ ", " ++ (← intText b)
    if step == 1 then return "range(" ++ bounds ++ ")"
    return "range(" ++ bounds ++ ", " ++ (← intText step) ++ ")"
  | .slice a b c => do return "slice(" ++ (← listed e [a, b, c]) ++ ")"
  | .kind k => pure ("<class '" ++ k.fullName ++ "'>")
  | .builtin n =>
    pure (if n == "__import__" then "<function make_import.<locals>.guarded_import at 0x7f0000>"
      else "<built-in function " ++ ((n.splitOn ".").getLastD n) ++ ">")
  | .native k n =>
    pure (match (k.role? n).getD .method with
      | .slot => "<slot wrapper '" ++ n ++ "' of '" ++ k.word ++ "' objects>"
      | .field _ => "<attribute '" ++ n ++ "' of '" ++ k.word ++ "' objects>"
      | .staticMethod =>
        if n == "__new__" then "<built-in method __new__ of type object at 0x7f0000>"
        else "<built-in method " ++ n ++ " of type object at 0x7f0000>"
      | _ => "<method '" ++ n ++ "' of '" ++ k.word ++ "' objects>")
  | .method self k n =>
    if k == .stub then
      return "<bound method StubModule." ++ n ++ " of " ++ (← e.quoted self) ++ ">"
    else
      let front := if k.role? n == some .slot then "<method-wrapper '" ++ n ++ "'"
        else "<built-in method " ++ n
      return front ++ " of " ++ (← Typing.word self) ++ " object at " ++ placeText self ++ ">"
  | .bound f self =>
    return "<bound method " ++ (← functionName f) ++ " of " ++ (← e.quoted self) ++ ">"
  | .generic origin args => do
    let items ← args.mapM (typeItem e)
    return (← typeItem e origin) ++ "[" ++
      (if items.isEmpty then "()" else ", ".intercalate items) ++ "]"
  | .union members => do return " | ".intercalate (← members.mapM (alternative e))
  | .object a =>
    let o ← Exec.object a
    if o.cls.same (.kind .stub) then stubText e a else ofData e a o

/-- The quoted text of a value. -/
def quoted (e : Engine) (v : Value) : Exec String := do
  match v with
  | .object a =>
    let o ← Exec.object a
    match o.cls with
    | .kind _ => plainly e v
    | t =>
      match ← Typing.declared? t "__repr__" with
      | some (.native .object _) | none => objectText v
      | some (.native _ _) => ofData e a o
      | some _ =>
        match ← Typing.callSpecial? e v "__repr__" [] with
        | some w => textOf "__repr__" w
        | none => objectText v
  | v => plainly e v

/-! ### Exceptions -/

/-- The last part of a path. -/
def baseName (path : String) : String :=
  String.ofList (path.toList.reverse.takeWhile (· != '/')).reverse

/-- The plain text of a value. -/
def plain (e : Engine) (v : Value) : Exec String := do
  match v with
  | .str s => pure s
  | v => textOf "__str__" (← e.call (.kind .str) [v] [])

/-- The text of a fault in source text: what is wrong, and the file and line where it is known. -/
def sourceFaultText (e : Engine) (parts : Fields) : Exec String := do
  let message ← plain e ((parts.lookup "msg").getD .none)
  let file? := match parts.lookup "filename" with
    | some (.str f) => some (baseName f)
    | _ => none
  let line? := match parts.lookup "lineno" with
    | some (.int n) => some (toString n)
    | _ => none
  pure (match file?, line? with
    | some f, some n => message ++ " (" ++ f ++ ", line " ++ n ++ ")"
    | some f, none => message ++ " (" ++ f ++ ")"
    | none, some n => message ++ " (line " ++ n ++ ")"
    | none, none => message)

/-- The text of an error of the operating system, unless it is one of its arguments alone. -/
def systemErrorText? (e : Engine) (parts : Fields) : Exec (Option String) := do
  match parts.lookup "errno", parts.lookup "strerror" with
  | some n, some message =>
    let text := "[Errno " ++ (← plain e n) ++ "] " ++ (← plain e message)
    match parts.lookup "filename", parts.lookup "filename2" with
    | some f, some g =>
      return some (text ++ ": " ++ (← e.quoted f) ++ " -> " ++ (← e.quoted g))
    | some f, none => return some (text ++ ": " ++ (← e.quoted f))
    | none, _ => return some text
  | _, _ => pure none

/-- The text of an exception from its arguments: nothing, the only one, or all of them. -/
def argumentsText (e : Engine) : List Value → Exec String
  | [] => pure ""
  | [v] => plain e v
  | args => tupleText e args

/-- The message about a byte or character that an encoding does not have, or about several. -/
def encodingText (deed unit : String) (shown : Option String) (start stop : Int) (reason : String) :
    String :=
  "can't " ++ deed ++ " " ++ (match shown with
    | some t => unit ++ " " ++ t ++ " in position " ++ toString start
    | none => unit ++ "s in position " ++ toString start ++ "-" ++ toString (stop - 1)) ++
    ": " ++ reason

/-- A character in messages about encodings. -/
def characterText (s : String) (i : Int) : Option String :=
  (s.toList[i.toNat]?).map fun c =>
    let n := c.toNat
    let digits (mark : String) (width : Nat) : String :=
      let ds := Nat.toDigits 16 n
      "'\\" ++ mark ++ String.ofList (List.replicate (width - ds.length) '0' ++ ds) ++ "'"
    if n < 256 then digits "x" 2 else if n < 65536 then digits "u" 4 else digits "U" 8

/-- The message about what an encoding does not have, from the parts of the exception. -/
def codecText (e : Engine) (parts : Fields) : Exec String := do
  let part (name : String) : Value := (parts.lookup name).getD .none
  let whole (v : Value) : Int := v.int?.getD 0
  let start := whole (part "start")
  let stop := whole (part "end")
  match parts.lookup "object" with
  | none => pure ""
  | some object =>
    let reason ← plain e (part "reason")
    let encoding ← match parts.lookup "encoding" with
      | some v => some <$> plain e v
      | none => pure none
    let front := encoding.elim "" fun n => "'" ++ n ++ "' codec "
    match object with
    | .bytes b =>
      let shown := if stop == start + 1 then
        (b[start.toNat]?).map fun x => "0x" ++ String.ofList (Text.hex2 x.toNat) else none
      return front ++ encodingText "decode" "byte" shown start stop reason
    | .str s =>
      let shown := if stop == start + 1 then characterText s start else none
      let deed := if encoding.isNone then "translate" else "encode"
      return front ++ encodingText deed "character" shown start stop reason
    | _ => pure ""

/-- The plain text of an exception by the type that gives it. -/
def ofIncident (e : Engine) (k : Kind) (x : Incident) : Exec String := do
  match k with
  | .exception "KeyError" =>
    match x.args with
    | [v] => e.quoted v
    | args => argumentsText e args
  | .exception "SyntaxError" => sourceFaultText e x.parts
  | .exception "OSError" =>
    match ← systemErrorText? e x.parts with
    | some t => pure t
    | none => argumentsText e x.args
  | .exception "ImportError" =>
    match x.parts.lookup "msg" with
    | some (.str s) => pure s
    | _ => argumentsText e x.args
  | .exception "BaseExceptionGroup" =>
    match x.parts.lookup "message", x.parts.lookup "exceptions" with
    | some message, some (.tuple members) =>
      return (← plain e message) ++ " (" ++ toString members.length ++ " sub-exception" ++
        (if members.length == 1 then ")" else "s)")
    | _, _ => argumentsText e x.args
  | .exception "UnicodeDecodeError" | .exception "UnicodeEncodeError"
  | .exception "UnicodeTranslateError" => codecText e x.parts
  | _ => argumentsText e x.args

/-- The plain text of a value by the type that gives it. -/
def plainOfKind (e : Engine) (k : Kind) (v : Value) : Exec String := do
  match ← Typing.unboxed v with
  | .str s => if k == .str then pure s else quoted e v
  | w =>
    match k, ← Exec.data? w with
    | .exception _, some (.exception x) => ofIncident e k x
    | .mappingProxy, some (.proxy (.object c)) =>
      entriesText e (.ofFields (← Typing.namesOf c))
    | _, _ => quoted e v

/-- The plain text of a value, by what its type says. -/
def str (e : Engine) (v : Value) : Exec String := do
  match v with
  | .str s => pure s
  | .int n => intText n
  | .object _ =>
    let made (method : String) : Exec String := do
      match ← Typing.callSpecial? e v method [] with
      | some w => textOf "__str__" w
      | none => quoted e v
    match ← Typing.special? v "__str__" with
    | some (.native .object _) =>
      -- What is quoted in its own way is plain in that way too.
      match ← Typing.special? v "__repr__" with
      | some (.native _ _) | none => quoted e v
      | some _ => made "__repr__"
    | some (.native k _) => plainOfKind e k v
    | some _ => made "__str__"
    | none => quoted e v
  | v => quoted e v

/-- What is reported of an exception: the name of its class, and its text if there is one. -/
def describe (e : Engine) (v : Value) : Exec String := do
  let text ← str e v
  let name ← Typing.shortName (← Typing.of v)
  pure (if text.isEmpty then name else name ++ ": " ++ text)

end Exemplar.Machine.Show
