import Exemplar.Machine.Iterate

/-
  Groups of exceptions: telling the members that fit a condition from the others, however deep they
  stand. The groups in between are made anew for each side.

  Raising and catching as statements do it: what a raised value comes to, what handlers fit an
  exception, and how the handlers of a group share its members out.
-/

namespace Exemplar.Machine.Group

/-- The members of a group, if an exception is one. -/
def members? (v : Value) : Exec (Option (List Value)) := do
  if ← Typing.isError v "BaseExceptionGroup" then
    match (← Exec.incident? v).bind fun x => x.parts.lookup "exceptions" with
    | some (.tuple items) => pure (some items)
    | _ => pure (some [])
  else pure none

/-- A group like another one with some members, or none if there are none. -/
def derive (e : Engine) (v : Value) (items : List Value) : Exec Value := do
  if items.isEmpty then return .none
  let list ← Exec.new .list (.list items.toArray)
  let made ← e.call (← Attribute.get e v "derive") [list] []
  if !(← Typing.isError made "BaseExceptionGroup") then
    Exec.typeError "derive must return an instance of BaseExceptionGroup"
  if let some x := ← Exec.incident? v then
    Exec.modifyIncident made fun y =>
      { y with trace := x.trace, context := x.context, cause := x.cause,
               suppressed := x.suppressed }
  match v, made with
  | .object a, .object b =>
    match ← Typing.ownName? a "__notes__" with
    | some notes =>
      match ← Exec.data? notes with
      | some (.list ns) => do Typing.putName b "__notes__" (← Exec.new .list (.list ns))
      | _ => pure ()
    | none => pure ()
  | _, _ => pure ()
  pure made

/-- The part of an exception that fits and the part that does not; either may be none. -/
def split (e : Engine) (fits : Value → Exec Bool) : Nat → Value → Exec (Value × Value)
  | 0, _ => Exec.raise "RecursionError" "maximum recursion depth exceeded in exceptiongroup_split"
  | n + 1, v => do
    if ← fits v then return (v, .none)
    match ← members? v with
    | none => pure (.none, v)
    | some items =>
      let parts ← items.mapM (split e fits n)
      let present (vs : List Value) : List Value := vs.filter fun v => !v.isNone
      let matched ← derive e v (present (parts.map (·.1)))
      return (matched, ← derive e v (present (parts.map (·.2))))

/-- How deep groups may nest. -/
def depth : Nat := 900

/-- Whether an exception is of a type, or of one of several. -/
def isOfType (v : Value) : Value → Exec Bool
  | .tuple items => items.anyM fun t => Typing.isOf v t
  | t => Typing.isOf v t

/-- What a program asks members for: types of exceptions, or a function. -/
def condition (e : Engine) (v : Value) : Exec (Value → Exec Bool) := do
  let refuse : Exec (Value → Exec Bool) :=
    Exec.typeError "expected a function, exception type or tuple of exception types"
  if ← Typing.isExceptionType v then return fun x => isOfType x v
  match v with
  | .tuple items =>
    if ← items.allM Typing.isExceptionType then pure fun x => isOfType x v else refuse
  | v =>
    match ← Typing.of v with
    | .kind .function => pure fun x => do Measure.truth e (← e.call v [x] [])
    | _ => refuse

/-- The exceptions of a group that are no groups themselves. -/
def leaves : Nat → Value → Exec (List Value)
  | 0, v => pure [v]
  | n + 1, v => do
    match ← members? v with
    | none => pure [v]
    | some items => return (← items.mapM (leaves n)).flatten

end Exemplar.Machine.Group

namespace Exemplar.Machine.Raise

/-! ### Raising -/

/-- The exception that a class of exceptions makes. -/
def made (e : Engine) (cls : Value) : Exec Value := do
  let x ← e.call cls [] []
  if ← Typing.isError x "BaseException" then pure x
  else
    Exec.typeError ("calling " ++ (← e.quoted cls) ++
      " should have returned an instance of BaseException, not " ++
      (← e.quoted (← Typing.of x)))

/-- The exception that a value stands for, or what is raised about a value that stands for none. -/
def exceptionOf (e : Engine) (message : String) (v : Value) : Exec Value := do
  if ← Typing.isExceptionType v then made e v
  else if ← Typing.isError v "BaseException" then pure v
  else Exec.typeError message

/-- Raises a value. -/
def value {α : Type} (e : Engine) (v : Value) : Exec α := do
  Exec.raiseValue (← exceptionOf e "exceptions must derive from BaseException" v)

/-- Raises a value with a cause, which may be none. -/
def withCause {α : Type} (e : Engine) (v cause : Value) : Exec α := do
  let x ← exceptionOf e "exceptions must derive from BaseException" v
  let c ←
    if cause.isNone then pure .none
    else exceptionOf e "exception causes must derive from BaseException" cause
  Exec.modifyIncident x fun i => { i with cause := c, suppressed := true }
  Exec.raiseValue x

/-- Raises the exception that is being handled again. -/
def again {α : Type} : Exec α := do
  match (← get).handled with
  | x :: _ => throw (.raised x)
  | [] => Exec.raise "RuntimeError" "No active exception to reraise"

/-- Gives an exception that is on its way through code a trace; one that is raised again as it is
keeps the trace that it has. -/
def mark (isAgain : Bool) (x : Value) : Exec Unit := do
  if let some i := ← Exec.incident? x then
    if !isAgain || i.trace.isNone then
      let trace ← Exec.new .traceback .plain
      Exec.modifyIncident x fun i => { i with trace := trace }

/-! ### Handlers -/

/-- The classes that a handler names. -/
def classes : Value → List Value
  | .tuple items => items
  | t => [t]

def checkClasses (t : Value) : Exec Unit := do
  if !(← (classes t).allM Typing.isExceptionType) then
    Exec.typeError "catching classes that do not inherit from BaseException is not allowed"

/-- Whether an exception is of a class that a handler names. -/
def fits (x t : Value) : Exec Bool := do
  checkClasses t
  (classes t).anyM (Typing.isOf x)

/-! ### Handlers of groups -/

/-- A group without a message. -/
def grouped (e : Engine) (items : List Value) : Exec Value := do
  let list ← Exec.new .list (.list items.toArray)
  e.call (Value.exceptionType "BaseExceptionGroup") [.str "", list] []

/-- The part of an exception that handlers of classes take, as a group, and what is left; either may
be none. -/
def split (e : Engine) (x t : Value) : Exec (Value × Value) := do
  checkClasses t
  if ← (classes t).anyM fun c => Typing.extends? c (Value.exceptionType "BaseExceptionGroup") then
    Exec.typeError "catching ExceptionGroup with except* is not allowed. Use except instead."
  if x.isNone then pure (.none, .none)
  else if ← (classes t).anyM (Typing.isOf x) then
    match ← Group.members? x with
    | some _ => pure (x, .none)
    | none => return (← grouped e [x], .none)
  else
    match ← Group.members? x with
    | none => pure (.none, x)
    | some _ =>
      match ← e.call (← Attribute.get e x "split") [t] [] with
      | .tuple [taken, left] => pure (taken, left)
      | v =>
        Exec.typeError ((← Typing.word x) ++ ".split must return a tuple, not " ++
          (← Typing.word v))

/-- Whether an exception has come about as another one has: then it is a part of it that has been
raised again. -/
def isPart (x whole : Value) : Exec Bool := do
  match ← Exec.incident? x, ← Exec.incident? whole with
  | some a, some b =>
    return a.trace.same b.trace && a.cause.same b.cause && a.context.same b.context
  | _, _ => pure false

/-- What is raised behind the handlers of a group: what they have raised, and of the group what they
have raised again or left. -/
def outcome (e : Engine) (whole rest : Value) (raised : List Value) : Exec (Option Value) := do
  let present := (raised ++ [rest]).filter fun v => !v.isNone
  match ← Group.members? whole with
  | none => pure present.head?
  | some _ =>
    let parts ← present.filterM fun x => isPart x whole
    let fresh ← present.filterM fun x => return !(← isPart x whole)
    let kept := (← parts.mapM (Group.leaves Group.depth)).flatten
    let isKept (x : Value) : Exec Bool := do
      if (← Group.members? x).isSome then pure false else pure (kept.any (·.same x))
    let (again, _) ←
      if kept.isEmpty then pure (.none, .none) else Group.split e isKept Group.depth whole
    let all := fresh ++ (if again.isNone then [] else [again])
    match all with
    | [] => pure none
    | [x] => pure (some x)
    | all => some <$> grouped e all

end Exemplar.Machine.Raise
