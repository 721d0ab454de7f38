import Exemplar.Syntax.Scope.Mention

/-
  Names that start with two underscores and do not end with two are private to the class around
  them: there they stand for a name that the class marks as its own.

  The rules about names. One fold over the mentions gathers for each scope what is done with each
  name and refuses declarations that come too late; then every scope is held against those around
  it, for a name can be declared in two ways, or to live in a scope that does not bind it.
-/

namespace Exemplar.Syntax

/-- The name that a name stands for in a class. -/
def privateName (owner : Option String) (name : String) : String :=
  match owner with
  | none => name
  | some owner =>
    let stem := String.ofList (owner.toList.dropWhile (· == '_'))
    if name.startsWith "__" && !name.endsWith "__" && !stem.isEmpty then "_" ++ stem ++ name
    else name

/-- What is done with a name in a scope. -/
structure Marks where
  isGlobal : Bool := false
  isNonlocal : Bool := false
  isParameter : Bool := false
  isAssigned : Bool := false
  isUsed : Bool := false
  isHinted : Bool := false
  isImported : Bool := false
  isIterated : Bool := false

namespace Marks

def or (a b : Marks) : Marks :=
  { isGlobal := a.isGlobal || b.isGlobal
    isNonlocal := a.isNonlocal || b.isNonlocal
    isParameter := a.isParameter || b.isParameter
    isAssigned := a.isAssigned || b.isAssigned
    isUsed := a.isUsed || b.isUsed
    isHinted := a.isHinted || b.isHinted
    isImported := a.isImported || b.isImported
    isIterated := a.isIterated || b.isIterated }

/-- Whether the scope binds the name. -/
def isBound (m : Marks) : Bool := m.isAssigned || m.isParameter || m.isImported

end Marks

/-- A scope with its names in the order in which they appear, the lines of its declarations and the
scopes inside it. -/
inductive ScopeTree
  | mk (frame : Frame) (names : List (String × Marks)) (declared : List (String × Nat))
      (inner : List ScopeTree)

namespace Names

/-- A scope that is being gathered. -/
structure Gathering where
  frame : Frame
  names : List (String × Marks) := []
  declared : List (String × Nat) := []
  inner : List ScopeTree := []
  /-- The class that private names belong to. -/
  owner : Option String := none
  inTargets : Bool := false
  /-- How many iterators of comprehensions are around. -/
  iterators : Nat := 0

/-- The scopes around a mention, the innermost first, and that of the file, which is the last. -/
structure Around where
  inner : List Gathering := []
  file : Gathering := { frame := .file }
  /-- Whether hints have scopes of their own. -/
  lazyHints : Bool

namespace Gathering

def close (g : Gathering) : ScopeTree := .mk g.frame g.names g.declared.reverse g.inner.reverse

def marks (g : Gathering) (name : String) : Marks := (g.names.lookup name).getD {}

/-- Sets the marks of a name, which keeps its place. -/
def put (name : String) (m : Marks) : List (String × Marks) → List (String × Marks)
  | [] => [(name, m)]
  | (n, k) :: r => if n == name then (n, m) :: r else (n, k) :: put name m r

def isComprehension (g : Gathering) : Bool :=
  match g.frame with
  | .comprehension _ => true
  | _ => false

def declare (g : Gathering) (name : String) (line : Nat) : Gathering :=
  { g with declared := (name, line) :: g.declared }

/-- Adds marks to a name of the scope; `written` is the name as the text has it. -/
def add (g : Gathering) (name written : String) (line : Nat) (m : Marks) :
    Except SyntaxFault Gathering :=
  let old := g.marks name
  let all := old.or m
  if m.isParameter && old.isParameter then
    .error ⟨"duplicate argument '" ++ written ++ "' in function definition", line, .general⟩
  else if g.inTargets && (all.isGlobal || all.isNonlocal) then
    .error ⟨"comprehension inner loop cannot rebind assignment expression target '" ++ written ++
      "'", line, .general⟩
  else
    let all := { all with isIterated := all.isIterated || g.inTargets }
    .ok { g with names := put name all g.names }

end Gathering

namespace Around

def current (a : Around) : Gathering := a.inner.headD a.file

def modify (a : Around) (f : Gathering → Except SyntaxFault Gathering) :
    Except SyntaxFault Around :=
  match a.inner with
  | g :: r => (f g).map fun g => { a with inner := g :: r }
  | [] => (f a.file).map fun g => { a with file := g }

/-- Adds marks to a name of the current scope. A name that is declared to be global is so for the
scope of the file too. -/
def add (a : Around) (name : String) (line : Nat) (m : Marks) : Except SyntaxFault Around := do
  let key := privateName a.current.owner name
  let a ← a.modify fun g => g.add key name line m
  if m.isGlobal then
    let all := m.or (a.file.marks key)
    return { a with file := { a.file with names := Gathering.put key all a.file.names } }
  else return a

def update (a : Around) (f : Gathering → Gathering) : Around :=
  match a.inner with
  | g :: r => { a with inner := f g :: r }
  | [] => { a with file := f a.file }

def enter (a : Around) (f : Frame) (name : String) : Around :=
  let g := a.current
  let owner := if f == .classBody then some name else g.owner
  { a with inner := { frame := f, owner := owner, iterators := g.iterators } :: a.inner }

def leave (a : Around) : Around :=
  match a.inner with
  | g :: r =>
    { a with inner := r }.update fun outer => { outer with inner := g.close :: outer.inner }
  | [] => a

/-- Leaves a hint that is not evaluated, with all that it holds. -/
def dropHint (a : Around) : Around := { a with inner := a.inner.drop 1 }

end Around

/-- What a declaration that comes too late is told. -/
def lateDeclaration? (m : Marks) (word name : String) : Option String :=
  let quoted := "'" ++ name ++ "'"
  if m.isParameter then some ("name " ++ quoted ++ " is parameter and " ++ word)
  else if m.isUsed then some ("name " ++ quoted ++ " is used prior to " ++ word ++ " declaration")
  else if m.isHinted then some ("annotated name " ++ quoted ++ " can't be " ++ word)
  else if m.isAssigned then
    some ("name " ++ quoted ++ " is assigned to before " ++ word ++ " declaration")
  else none

def declaration (isGlobal : Bool) : Marks := { isGlobal := isGlobal, isNonlocal := !isGlobal }

/-- Binds a name that a comprehension assigns to in the nearest scope that is neither a
comprehension nor a hint. The name is looked up as it is written. -/
def bindOutward (name : String) (line : Nat) (a : Around) : Except SyntaxFault Around := do
  let passed (g : Gathering) : Bool := g.isComprehension || g.frame == .hint
  let own := a.inner.takeWhile passed
  if own.any fun g => g.isComprehension && (g.marks name).isIterated then
    refuse line ("assignment expression cannot rebind comprehension iteration variable '" ++ name ++
      "'")
  else
    let declareIn (isGlobal : Bool) : Except SyntaxFault Around := do
      let a ← a.add name line (declaration isGlobal)
      return a.update (·.declare (privateName a.current.owner name) line)
    match a.inner.drop own.length with
    | [] => declareIn true
    | target :: _ =>
      if target.frame == .classBody then
        refuse line
          "assignment expression within a comprehension cannot be used in a class body"
      else
        let key := privateName a.current.owner name
        let a ← declareIn (target.marks name).isGlobal
        match a.inner.drop own.length with
        | [] => return a
        | target :: rest =>
          let target ← target.add key name line { isAssigned := true }
          return { a with inner := a.inner.take own.length ++ target :: rest }

def comprehensionWord : Comprehension → String
  | .list => "list comprehension"
  | .set => "set comprehension"
  | .dict => "dict comprehension"
  | .generator => "generator expression"

/-- What may not stand inside a hint that is not evaluated. -/
def outsideHint (a : Around) (what : String) (line : Nat) : Except SyntaxFault Unit :=
  if a.current.frame == .hint then
    refuse line ("'" ++ what ++ "' can not be used within an annotation")
  else .ok ()

/-- The scopes after a mention. -/
def step (a : Around) : Mention → Except SyntaxFault Around
  | .enter f name => .ok (a.enter f name)
  | .leave => .ok a.leave
  | .hint begin =>
    .ok (if !a.lazyHints then a else if begin then a.enter .hint "" else a.dropHint)
  | .use n l => do
    let a ← a.add n l { isUsed := true }
    -- A function that reads this name reaches for the class around it.
    if n == "super" && a.current.frame.isFunction then a.add "__class__" l { isUsed := true }
    else return a
  | .bind n l => a.add n l { isAssigned := true }
  | .parameter n l => a.add n l { isParameter := true }
  | .importing n l => a.add n l { isImported := true }
  | .importAll l =>
    if a.inner.isEmpty then .ok a else refuse l "import * only allowed at module level"
  | .hinted n simple assigned l => do
    let m := a.current.marks (privateName a.current.owner n)
    if simple && !a.inner.isEmpty && (m.isGlobal || m.isNonlocal) then
      refuse l ("annotated name '" ++ n ++ "' can't be " ++
        (if m.isGlobal then "global" else "nonlocal"))
    else if simple then a.add n l { isHinted := true, isAssigned := true }
    else if assigned then a.add n l { isAssigned := true }
    else return a
  | .declare isGlobal n l => do
    let key := privateName a.current.owner n
    let word := if isGlobal then "global" else "nonlocal"
    match lateDeclaration? (a.current.marks key) word n with
    | some message => refuse l message
    | none =>
      let a ← a.add n l (declaration isGlobal)
      return a.update (·.declare key l)
  | .named n l => do
    outsideHint a "named expression" l
    if 0 < a.current.iterators then
      refuse l "assignment expression cannot be used in a comprehension iterable expression"
    else if a.current.isComprehension then bindOutward n l a
    else return a
  | .targets begin => .ok (a.update fun g => { g with inTargets := begin })
  | .iterator begin =>
    .ok (a.update fun g =>
      { g with iterators := if begin then g.iterators + 1 else g.iterators - 1 })
  | .evaluated what l => do
    outsideHint a what l
    return a
  | .yield l =>
    match a.current.frame with
    | .comprehension c => refuse l ("'yield' inside " ++ comprehensionWord c)
    | _ => .ok a

/-- The scope of a file with all scopes inside it. -/
def tree (lazyHints : Bool) (mentions : List Mention) : Except SyntaxFault ScopeTree := do
  let a ← mentions.foldlM step { lazyHints := lazyHints }
  return a.file.close

/-- Holds a name against the scopes around it; `outer` are the names that functions around bind, or
nothing for a file. -/
def checkName (declared : List (String × Nat)) (outer : Option (List String)) (name : String)
    (m : Marks) : Except SyntaxFault Unit :=
  let line := (declared.lookup name).getD 0
  if m.isGlobal && m.isNonlocal then refuse line ("name '" ++ name ++ "' is nonlocal and global")
  else if m.isNonlocal then
    match outer with
    | none => refuse line "nonlocal declaration not allowed at module level"
    | some names =>
      if names.contains name then .ok ()
      else refuse line ("no binding for nonlocal '" ++ name ++ "' found")
  else .ok ()

/-- The names that scopes inside a scope may refer to. What a class does with a name does not
matter to the scopes inside it. -/
def visible (frame : Frame) (names : List (String × Marks)) (outer : List String) : List String :=
  match frame with
  | .classBody => "__class__" :: outer
  | _ =>
    let own := if frame.isFunction then
      names.filterMap (fun (n, m) =>
        if m.isBound && !m.isGlobal && !m.isNonlocal then some n else none) else []
    let globals := names.filterMap fun (n, m) => if m.isGlobal then some n else none
    own ++ outer.filter (!globals.contains ·)

mutual

def check (outer : Option (List String)) : ScopeTree → Except SyntaxFault Unit
  | .mk frame names declared inner => do
    names.forM fun (n, m) => checkName declared outer n m
    checkAll (visible frame names (outer.getD [])) inner

def checkAll (outer : List String) : List ScopeTree → Except SyntaxFault Unit
  | [] => .ok ()
  | t :: ts => do
    check (some outer) t
    checkAll outer ts

end

/-- Refuses mentions that break a rule about names. Hints that are lazy are not evaluated, and no
name in them counts for the scope around. -/
def checkMentions (lazyHints : Bool) (mentions : List Mention) : Except SyntaxFault Unit := do
  check none (← tree lazyHints mentions)

end Names

end Exemplar.Syntax
