import Exemplar.Machine.Method.Slot

/-
  Waiting: the iterator that a value is awaited through, the asynchronous iterator of a value, and
  what its next item is awaited from.
-/

namespace Exemplar.Machine.Await

/-- Whether a value is a coroutine. -/
def isCoroutine (v : Value) : Exec Bool := do
  match ← Generator.of? v with
  | some (_, g) => pure (g.manner == .coroutine)
  | none => pure false

/-- The iterator that a value is awaited through, if it can be awaited. -/
def iterator? (e : Engine) (v : Value) : Exec (Option Value) := do
  if ← isCoroutine v then return some v
  match ← Typing.callSpecial? e v "__await__" [] with
  | none => pure none
  | some it =>
    if ← isCoroutine it then Exec.typeError "__await__() returned a coroutine"
    if !(← Iterate.isIterator it) then
      Exec.typeError ("__await__() returned non-iterator of type '" ++ (← Typing.word it) ++ "'")
    pure (some it)

/-- Whether a coroutine is waiting for another one. -/
def isWaiting (v : Value) : Exec Bool := do
  match ← Generator.of? v with
  | some (_, ⟨.coroutine, _, _, _, .suspended frame, _⟩) =>
    pure (Generator.delegate? frame).isSome
  | _ => pure false

/-- The iterator that a value is awaited through. A value that an asynchronous context has given is
named by the method that gave it. -/
def iterator (e : Engine) (giver : Option String) (v : Value) : Exec Value := do
  match ← iterator? e v with
  | none =>
    match giver with
    | some method =>
      Exec.typeError ("'async with' received an object from " ++ method ++
        " that does not implement __await__: " ++ (← Typing.word v))
    | none =>
      Exec.typeError ("object " ++ (← Typing.word v) ++ " can't be used in 'await' expression")
  | some it =>
    if ← isWaiting it then Exec.raise "RuntimeError" "coroutine is being awaited already"
    pure it

/-- The asynchronous iterator that a loop goes over. -/
def iterate (e : Engine) (v : Value) : Exec Value := do
  match ← Typing.callSpecial? e v "__aiter__" [] with
  | none =>
    Exec.typeError ("'async for' requires an object with __aiter__ method, got " ++
      (← Typing.word v))
  | some it =>
    if (← Typing.special? it "__anext__").isNone then
      Exec.typeError ("'async for' received an object from __aiter__ that does not implement " ++
        "__anext__: " ++ (← Typing.word it))
    pure it

/-- What the next item of an asynchronous iterator is awaited from. -/
def next (e : Engine) (it : Value) : Exec Value := do
  match ← Typing.callSpecial? e it "__anext__" [] with
  | none =>
    Exec.typeError ("'async for' requires an iterator with __anext__ method, got " ++
      (← Typing.word it))
  | some v =>
    if ← Typing.isA it .asyncGenerator then return v
    let found ← Exec.catching (Except.ok <$> iterator? e v) fun x => pure (.error x)
    let text := "'async for' received an invalid object from __anext__: " ++ (← Typing.word v)
    match found with
    | .ok (some w) => pure w
    | .ok none =>
      let plain := "object " ++ (← Typing.word v) ++ " can't be used in 'await' expression"
      Generator.raiseFrom "TypeError" text
        (← Exec.new (.exception "TypeError") (.exception { args := [.str plain] }))
    | .error x => Generator.raiseFrom "TypeError" text x

end Exemplar.Machine.Await
