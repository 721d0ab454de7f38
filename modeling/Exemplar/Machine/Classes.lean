import Exemplar.Machine.Construct
import Exemplar.Text.Identifier

/-
  Classes that programs declare: the class of a class, the order in which a class and those that it
  extends are searched, what its instances hold, and telling what stands in it and what it extends
  about it.
-/

namespace Exemplar.Machine.Classes

/-! ### What a class extends -/

/-- The bases of a class, where a value that is no type may stand for several. -/
def resolve (e : Engine) (bases : List Value) : Exec (List Value) := do
  let parts ← bases.mapM fun b => do
    if ← Typing.isType b then return [b]
    match ← Attribute.get? e b "__mro_entries__" with
    | none => return [b]
    | some f =>
      match ← e.call f [.tuple bases] [] with
      | .tuple items => return items
      | _ => Exec.typeError "__mro_entries__ must return a tuple"
  pure parts.flatten

/-- The class of a class that is made by one of them and extends others. -/
def winner (start : Value) (bases : List Value) : Exec Value :=
  bases.foldlM (fun best b => do
    let t ← Typing.of b
    if ← Typing.extends? best t then pure best
    else if ← Typing.extends? t best then pure t
    else
      Exec.typeError ("metaclass conflict: the metaclass of a derived class must be a " ++
        "(non-strict) subclass of the metaclasses of all its bases")) start

/-- The type that decides how instances are laid out: one that keeps values by slots, or one that is
there without a declaration. -/
def layout : Nat → Value → Exec Value
  | 0, t => pure t
  | n + 1, t => do
    match t with
    | .kind k => pure (.kind k.solid)
    | t =>
      match ← Typing.class? t with
      | none => pure (.kind .object)
      | some c =>
        if c.slots.isEmpty then
          c.bases.foldlM (fun best b => do
            let l ← layout n b
            if ← Typing.extends? l best then pure l else pure best) (.kind .object)
        else pure t

/-- How deep classes may extend one another. -/
def depth : Nat := 1000

/-- Whether a class may extend a type. -/
def isExtensible (t : Value) : Bool :=
  match t with
  | .kind k => k.canBeExtended
  | _ => true

/-- The type that decides what the instances of a class hold. -/
def checkLayout (bases : List Value) : Exec Unit := do
  let _ ← bases.foldlM (fun (best : Value) b => do
    if !(← Typing.isType b) then Exec.typeError "bases must be types"
    if !isExtensible b then
      Exec.typeError ("type '" ++ (← Typing.name b) ++ "' is not an acceptable base type")
    let l ← layout depth b
    if ← Typing.extends? best l then pure best
    else if ← Typing.extends? l best then pure l
    else Exec.typeError "multiple bases have instance lay-out conflict") (.kind .object)

/-- What instances hold besides names. -/
def solidOf (bases : List Value) : Exec Kind :=
  bases.foldlM (fun best b => do
    let k ← Typing.solid b
    pure (if k.extends? best then k else best)) .object

/-- The first of the values that is among those behind it. -/
def repeated? : List Value → Option Value
  | [] => none
  | v :: r => if r.any (·.same v) then some v else repeated? r

/-- Merges lines of types so that each type stands in front of all that are behind it in some line;
or the types that the lines start with where none can come next. -/
def merge : Nat → List (List Value) → Except (List Value) (List Value)
  | 0, _ => .ok []
  | n + 1, lines =>
    let lines := lines.filter fun l => !l.isEmpty
    let isBehind (t : Value) : Bool := lines.any fun l => (l.drop 1).any (·.same t)
    match lines.filterMap List.head? with
    | [] => .ok []
    | heads =>
      match heads.find? fun t => !isBehind t with
      | none => .error heads
      | some t =>
        let rest := lines.map fun l => if l.head?.any (·.same t) then l.drop 1 else l
        (merge n rest).map (t :: ·)

/-- Values without those that have stood before. -/
def distinct (vs : List Value) : List Value :=
  vs.foldl (fun done v => if done.any (·.same v) then done else done ++ [v]) []

/-- The order in which what a class extends is searched. -/
def order (bases : List Value) : Exec (List Value) := do
  match bases with
  | [b] => Typing.lineage b
  | bases =>
    if let some v := repeated? bases then
      Exec.typeError ("duplicate base class " ++ (← Typing.shortName v))
    let lines ← bases.mapM Typing.lineage
    match merge (lines.flatten.length + bases.length + 1) (lines ++ [bases]) with
    | .ok l => pure l
    | .error heads =>
      Exec.typeError ("Cannot create a consistent method resolution\norder (MRO) for bases " ++
        ", ".intercalate (← (distinct heads).mapM Typing.shortName))

/-! ### What stands in a class -/

/-- Whether instances of a type have names of their own. -/
def hasNames (t : Value) : Exec Bool := do
  match t with
  | .kind k =>
    pure (match k with
      | .exception _ | .type | .module | .stub | .staticMethod | .classMethod => true
      | _ => false)
  | t => return (← Typing.class? t).elim false (·.hasNames)

/-- A name inside a class, with the name of the class in front if it is private. -/
def mangled (cls name : String) : String :=
  let bare := String.ofList (cls.toList.dropWhile (· == '_'))
  if name.startsWith "__" && !name.endsWith "__" && !name.contains '.' && !bare.isEmpty then
    "_" ++ bare ++ name
  else name

def isIdentifier (s : String) : Bool :=
  match s.toList with
  | [] => false
  | c :: r => Text.isIdentifierStart c && r.all Text.isIdentifierContinue

/-- The names of slots that a class asks for. -/
def slotNames (e : Engine) (v : Value) : Exec (List String) := do
  let items ← match ← Typing.unboxed v with
    | .str _ => pure [v]
    | _ => Iterate.collect e v
  items.mapM fun w => do
    match ← Typing.unboxed w with
    | .str s =>
      if !isIdentifier s then Exec.typeError "__slots__ must be identifiers"
      pure s
    | _ => Exec.typeError ("__slots__ items must be strings, not '" ++ (← Typing.word w) ++ "'")

/-- Types whose values are of different sizes. -/
def variesInSize (k : Kind) : Bool :=
  match k with
  | .int | .bytes | .tuple | .type => true
  | _ => false

/-- The slots of a class with whether instances have names of their own besides. -/
def slotsOf (e : Engine) (name : String) (bases : List Value) (fields : Fields) :
    Exec (List String × Bool) := do
  let inherits ← bases.anyM hasNames
  match fields.lookup "__slots__" with
  | none => pure ([], true)
  | some v =>
    let names ← slotNames e v
    if !names.isEmpty && variesInSize (← solidOf bases) then
      let base := bases.headD (.kind .object)
      Exec.typeError ("nonempty __slots__ not supported for subtype of '" ++
        (← Typing.name base) ++ "'")
    let asks := names.contains "__dict__"
    if asks && inherits then
      Exec.typeError "__dict__ slot disallowed: we already got one"
    let kept := (names.filter fun n => n != "__dict__" && n != "__weakref__").map (mangled name)
    for n in kept do
      if (fields.lookup n).isSome && n != "__qualname__" && n != "__classcell__" then
        Exec.valueError (Text.quote n ++ " in __slots__ conflicts with class variable")
    pure (kept, inherits || asks)

/-- A function as what a class makes of it by a name. -/
def adapted (name : String) (v : Value) : Exec Value := do
  match name, ← Exec.data? v with
  | "__new__", some (.function _) => Exec.new .staticMethod (.wrapper v)
  | "__init_subclass__", some (.function _) | "__class_getitem__", some (.function _) =>
    Exec.new .classMethod (.wrapper v)
  | _, _ => pure v

/-- Tells a value that stands in a class its name there. -/
def tellName (e : Engine) (c : Value) (cls name : String) (v : Value) : Exec Unit := do
  match ← Typing.special? v "__set_name__" with
  | none => pure ()
  | some (.native .property _) =>
    if let .object a := v then
      Exec.modifyData a fun
        | .property p => .property { p with name := some name }
        | d => d
  | some _ =>
    Exec.catching (do
      let _ ← Typing.callSpecial? e v "__set_name__" [c, .str name]) fun x => do
        let text := "Error calling __set_name__ on '" ++ (← Typing.word v) ++ "' instance " ++
          Text.quote name ++ " in '" ++ cls ++ "'"
        Generator.raiseFrom "RuntimeError" text x

/-- Tells what a class extends about it. -/
def announce (e : Engine) (c : Value) (named : Fields) : Exec Unit := do
  match ← Typing.find? "__init_subclass__" ((← Typing.lineage c).drop 1) with
  | none => pure ()
  | some attr =>
    let f ← Typing.bindToClass e attr c
    let _ ← e.call f [] named

/-- The name of the module that the program says to be. -/
def moduleName : Exec (Option Value) := do
  match ← Exec.dataAt globals with
  | .dict t => pure (t.getText? "__name__")
  | _ => pure none

/-- The lineage that the class of a class gives, if it gives one in its own way. -/
def givenOrder? (e : Engine) (c : Value) : Exec (Option (List Value)) := do
  match ← Typing.ofProgram? (← Typing.of c) "mro" with
  | none => pure none
  | some _ =>
    match ← Typing.callSpecial? e c "mro" [] with
    | some v => some <$> Iterate.collect e v
    | none => pure none

/-- The qualified name that the body of a class sets. -/
def qualifiedName (name : String) (fields : Fields) : Exec String := do
  match fields.lookup "__qualname__" with
  | none => pure name
  | some v =>
    match ← Typing.unboxed v with
    | .str s => pure s
    | _ => Exec.typeError ("type __qualname__ must be a str, not " ++ (← Typing.word v))

/-- Makes a class with a class of its own from a name, bases and what its body has bound. -/
def make (e : Engine) (m : Value) (name : String) (bases : List Value) (fields named : Fields) :
    Exec Value := do
  let bases := if bases.isEmpty then [.kind .object] else bases
  checkLayout bases
  let (slots, names) ← slotsOf e name bases fields
  let qualified ← qualifiedName name fields
  let shell := fields.lookup "__classcell__"
  let inherits ← bases.anyM hasNames
  let solid ← solidOf bases
  let body := (fields.erase "__qualname__").erase "__classcell__"
  let body : Fields ← body.mapM fun (n, v) => do return (n, ← adapted n v)
  let body ← match body.lookup "__module__", ← moduleName with
    | none, some v => pure (body.put "__module__" v)
    | _, _ => pure body
  let made : Class :=
    { name := name, qualified := qualified, bases := bases, lineage := [], solid := solid,
      hasNames := names, slots := slots }
  let c ← Exec.newObject { cls := m, names := .own body, data := .classOf made }
  let .object a := c | pure c
  let lineage ← order bases
  Exec.modifyClass a fun k => { k with lineage := c :: lineage }
  if let some l := ← givenOrder? e c then
    Exec.modifyClass a fun k => { k with lineage := l }
  let descriptor (k : Kind) (n : String) : Exec Unit := do
    Typing.putName a n (← Exec.newObject { cls := .kind k, data := .slot c n })
  for n in slots do
    descriptor .memberDescriptor n
  if names && !inherits then descriptor .fieldDescriptor "__dict__"
  let isFirst ← bases.allM fun b => return (← Typing.class? b).isNone
  if (body.lookup "__slots__").isNone && isFirst && !variesInSize solid then
    descriptor .fieldDescriptor "__weakref__"
  if (body.lookup "__doc__").isNone then Typing.putName a "__doc__" .none
  if (body.lookup "__eq__").isSome && (body.lookup "__hash__").isNone then
    Typing.putName a "__hash__" .none
  if let some v := shell then
    match ← Exec.data? v with
    | some (.cell i) => Exec.setCell i (some c)
    | _ =>
      Exec.typeError ("type __classcell__ must be a nonlocal cell, not a " ++ (← Typing.word v))
  for b in bases do
    if let .object x := b then Exec.modifyClass x fun k => { k with heirs := k.heirs ++ [c] }
  for (n, v) in body do
    tellName e c name n v
  announce e c named
  pure c

/-- Makes a class as calling the type of types does. -/
def ofArguments (e : Engine) (m : Value) (args : List Value) (named : Fields) : Exec Value := do
  let refuse (i : Nat) (expected : String) (v : Value) : Exec Value := do
    Exec.typeError ("type.__new__() argument " ++ toString i ++ " must be " ++ expected ++
      ", not " ++ (← Passed.word v))
  match args with
  | [n, b, d] =>
    match ← Typing.unboxed n, ← Typing.unboxed b, ← Exec.data? d with
    | .str name, .tuple bases, some (.dict t) =>
      for base in bases do
        if !(← Typing.isType base) then
          if (← Attribute.get? e base "__mro_entries__").isSome then
            Exec.typeError
              "type() doesn't support MRO entry resolution; use types.new_class()"
      let best ← winner m bases
      if !best.same m then
        if let some f := ← Typing.ofProgram? best "__new__" then
          let f ← match ← Typing.bindingOf f with
            | .staticMethod g => pure g
            | _ => pure f
          return ← e.call f (best :: args) named
      make e best name bases t.toFields named
    | .str _, .tuple _, _ => refuse 3 "dict" d
    | .str _, _, _ => refuse 2 "tuple" b
    | _, _, _ => refuse 1 "str" n
  | args =>
    Exec.typeError ("type.__new__() takes exactly 3 arguments (" ++ toString args.length ++
      " given)")

/-- Checks the arguments that a class is set up with. -/
def checkSetUp (args : List Value) (named : Fields) : Exec Unit := do
  if args.length == 1 && !named.isEmpty then
    Exec.typeError "type.__init__() takes no keyword arguments"
  if args.length != 1 && args.length != 3 then
    Exec.typeError "type.__init__() takes 1 or 3 arguments"

/-! ### By a statement -/

/-- What a statement that declares a class starts with: its class, its bases and the dictionary for
the names of its body. -/
structure Opening where
  maker : Value
  bases : List Value
  given : List Value
  space : Value
  named : Fields

/-- The class of a class that a statement declares. -/
def metaFor (bases : List Value) (named : Fields) : Exec Value := do
  let start ← match named.lookup "metaclass", bases with
    | some m, _ => pure m
    | none, [] => pure (.kind .type)
    | none, b :: _ => Typing.of b
  if ← Typing.isType start then winner start bases else pure start

def opening (e : Engine) (name : String) (given : List Value) (named : Fields) : Exec Opening := do
  let bases ← resolve e given
  let m ← metaFor bases named
  let named := named.erase "metaclass"
  let space ← match m, ← Attribute.get? e m "__prepare__" with
    | .kind .type, _ | _, none => Exec.new .dict (.dict {})
    | _, some f =>
      let v ← e.call f [.str name, .tuple bases] named
      match ← Exec.data? v with
      | some (.dict _) => pure v
      | _ =>
        let isMapping ← match ← Typing.ofProgram? (← Typing.of v) "__getitem__" with
          | some _ => pure true
          | none => pure false
        if isMapping then pure v
        else
          let word ← if ← Typing.isType m then Typing.name m else pure "<metaclass>"
          Exec.typeError (word ++ ".__prepare__() must return a mapping, not " ++
            (← Typing.word v))
  pure ⟨m, bases, given, space, named⟩

/-- Makes the class of a statement once its body has run. `shell` is where functions in the body
find the class. -/
def finish (e : Engine) (name : String) (s : Opening) (shell : Option Nat) : Exec Value := do
  if !Value.sameAll s.bases s.given then
    Item.put e s.space (.str "__orig_bases__") (.tuple s.given)
  let c ← e.call s.maker [.str name, .tuple s.bases, s.space] s.named
  match shell with
  | none => pure c
  | some i =>
    if ← Typing.isType c then
      match ← Exec.cell i with
      | none =>
        Exec.raise "RuntimeError" ("__class__ not set defining " ++ Text.quote name ++ " as " ++
          (← e.quoted c) ++ ". Was __classcell__ propagated to type.__new__?")
      | some d =>
        if d.same c then pure c
        else
          Exec.typeError ("__class__ set to " ++ (← e.quoted d) ++ " defining " ++
            Text.quote name ++ " as " ++ (← e.quoted c))
    else pure c

end Exemplar.Machine.Classes
