import Exemplar.Syntax.Fault
import Exemplar.Syntax.Tree

/-
  What has names or rules of its own: a file, a function, a class, a comprehension, a hint that is
  not evaluated.

  Features of the future. A file may ask for them before anything but a text that stands for itself;
  on the line of the last such request others may stand.

  A text as a row of mentions: where a scope begins and ends, and where a name is read, bound or
  declared. What is bound comes before what it is bound to, and an expression for the scope around
  comes before the scope itself, so that a fold over the row meets the names in the order in which
  their rules are kept.
-/

namespace Exemplar.Syntax

/-- The four forms of a comprehension. -/
inductive Comprehension
  | list | set | dict | generator
  deriving DecidableEq

inductive Frame
  | file
  | function (isAsync : Bool)
  | lambda
  | classBody
  | comprehension (c : Comprehension)
  | hint
  deriving DecidableEq

/-- Whether a frame is run as a function. -/
def Frame.isFunction : Frame → Bool
  | .function _ | .lambda | .comprehension _ => true
  | _ => false

/-- A name that stands for a constant and cannot be bound. -/
def debugName : String := "__debug__"

/-- A rule of scopes is broken on a line. -/
def refuse (line : Int) (message : String) : Except SyntaxFault α :=
  .error ⟨message, line, .general⟩

end Exemplar.Syntax

namespace Exemplar.Syntax.Future

/-- Features that a file may ask for. -/
def features : List String :=
  ["nested_scopes", "generators", "division", "absolute_import", "with_statement",
   "print_function", "unicode_literals", "barry_as_FLUFL", "generator_stop", "annotations"]

/-- How far the requests go: whether something else has begun, the line of the statement before, and
the line of the last request. -/
structure Progress where
  ended : Bool := false
  before : Nat := 0
  last : Option Nat := none

/-- Refuses a feature that there is not. -/
def checkFeature (line : Nat) (name : String) : Except SyntaxFault Unit :=
  if features.contains name then .ok ()
  else if name == "braces" then refuse line "not a chance"
  else refuse line ("future feature " ++ name ++ " is not defined")

/-- The names that a request asks for; a star is a name that no feature has. -/
def requested (names : List Import) : List String := names.map fun i => i.path.headD ""

/-- The line of the last request at the front of statements. -/
def lastLine (p : Progress) : List Stmt → Except SyntaxFault (Option Nat)
  | [] => .ok p.last
  | s :: ss => do
    let line := s.start.line
    if p.ended && p.before < line then return p.last
    match s.action with
    | .importFrom _ ["__future__"] names =>
      if p.ended then
        refuse line "from __future__ imports must occur at the beginning of the file"
      (requested names).forM (checkFeature line)
      lastLine { p with before := line, last := some line } ss
    | .expr (.mk _ (.const (.str _ _))) => lastLine { p with before := line } ss
    | _ => lastLine { p with ended := true, before := line } ss

/-- Whether the statements ask for hints not to be evaluated. -/
def asksForLazyHints (body : List Stmt) : Bool :=
  body.any fun s => match s.action with
    | .importFrom _ ["__future__"] names => (requested names).contains "annotations"
    | _ => false

end Exemplar.Syntax.Future

namespace Exemplar.Syntax

inductive Mention
  | enter (f : Frame) (name : String)
  | leave
  /-- A hint begins or ends. -/
  | hint (begin : Bool)
  | use (name : String) (line : Nat)
  | bind (name : String) (line : Nat)
  | parameter (name : String) (line : Nat)
  | importing (name : String) (line : Nat)
  | importAll (line : Nat)
  /-- A name is given a hint, and a value with it or not. -/
  | hinted (name : String) (simple assigned : Bool) (line : Nat)
  | declare (isGlobal : Bool) (name : String) (line : Nat)
  /-- A value is to be bound to a name inside an expression. -/
  | named (name : String) (line : Nat)
  /-- The targets of a comprehension begin or end. -/
  | targets (begin : Bool)
  /-- The iterator of a comprehension begins or ends. -/
  | iterator (begin : Bool)
  /-- What a hint that is not evaluated may not hold. -/
  | evaluated (what : String) (line : Nat)
  | yield (line : Nat)

namespace Mention

/-- The names of parameters, those that take what is left after all others. -/
def parameters (ps : List TreeParameter) : List Mention :=
  let variadic (p : TreeParameter) := p.kind == .variadic || p.kind == .keywordVariadic
  (ps.filter (!variadic ·) ++ ps.filter variadic).map fun p => .parameter p.name p.line

mutual

def tree : Tree → List Mention
  | .mk l f => form l f

/-- The mentions in an expression on a line. -/
def form (l : Nat) : Form → List Mention
  | .const _ => []
  | .name n => if n == debugName then [] else [.use n l]
  | .attribute v _ => tree v
  | .subscript v i => tree v ++ tree i
  | .call f as ks => tree f ++ trees as ++ keywords ks
  | .unary _ e => tree e
  | .binary a _ b => tree a ++ tree b
  | .bool _ es => trees es
  | .compare e rest => tree e ++ comparisons rest
  | .conditional t a b => tree t ++ tree a ++ tree b
  | .lambda ps body =>
    defaults false ps ++ defaults true ps ++
      .enter .lambda "lambda" :: parameters ps ++ tree body ++ [.leave]
  | .list es | .tuple es | .set es => trees es
  | .dict es => keys es ++ values es
  | .listComp e cs => comprehension .list (tree e) cs
  | .setComp e cs => comprehension .set (tree e) cs
  | .generator e cs => comprehension .generator (tree e) cs
  | .dictComp k v cs => comprehension .dict (tree v ++ tree k) cs
  | .await e => .evaluated "await expression" l :: tree e
  | .yield e => .evaluated "yield expression" l :: option e ++ [.yield l]
  | .yieldFrom e => .evaluated "yield expression" l :: tree e ++ [.yield l]
  | .named n e => .named n l :: tree e ++ [.bind n l]
  | .starred e => tree e
  | .slice a b s => option a ++ option b ++ option s
  | .joined es => trees es
  | .formatted e _ spec => tree e ++ option spec

def trees : List Tree → List Mention
  | [] => []
  | e :: es => tree e ++ trees es

def option : Option Tree → List Mention
  | none => []
  | some e => tree e

def comparisons : List (CompareOp × Tree) → List Mention
  | [] => []
  | (_, e) :: r => tree e ++ comparisons r

def keys : List (Option Tree × Tree) → List Mention
  | [] => []
  | (k, _) :: r => option k ++ keys r

def values : List (Option Tree × Tree) → List Mention
  | [] => []
  | (_, v) :: r => tree v ++ values r

def keywords : List TreeKeyword → List Mention
  | [] => []
  | .mk _ v _ :: r => tree v ++ keywords r

/-- The defaults of parameters, of those that are passed by name only or of the others. -/
def defaults (keywordOnly : Bool) : List TreeParameter → List Mention
  | [] => []
  | .mk kind _ _ d _ :: ps =>
    (if (kind == .keywordOnly) == keywordOnly then option d else []) ++ defaults keywordOnly ps

/-- A comprehension: the first iterator belongs to the scope around it, and then its own begins. -/
def comprehension (c : Comprehension) (element : List Mention) : List TreeClause → List Mention
  | [] => []
  | .mk _ t i conditions :: cs =>
    .iterator true :: tree i ++ .iterator false :: .enter (.comprehension c) "" ::
      .targets true :: target t ++ .targets false :: trees conditions ++ clauses cs ++
      element ++ [.leave]

def clauses : List TreeClause → List Mention
  | [] => []
  | .mk _ t i conditions :: cs =>
    .targets true :: target t ++ .targets false :: .iterator true :: tree i ++
      .iterator false :: trees conditions ++ clauses cs

/-- The mentions in what is assigned to or deleted. -/
def target : Tree → List Mention
  | .mk l f => match f with
    | .name n => [.bind n l]
    | .attribute v _ => tree v
    | .subscript v i => tree v ++ tree i
    | .tuple es | .list es => targetItems es
    | .starred e => target e
    | _ => []

def targetItems : List Tree → List Mention
  | [] => []
  | e :: es => target e ++ targetItems es

end

def inHint (e : Tree) : List Mention := .hint true :: tree e ++ [.hint false]

/-- The hints of parameters in the order of their kinds. -/
def parameterHints (ps : List TreeParameter) : List Mention :=
  let kinds : List ParameterKind :=
    [.positionalOnly, .ordinary, .variadic, .keywordVariadic, .keywordOnly]
  kinds.flatMap fun k => (ps.filter (·.kind == k)).flatMap fun p => option p.hint

def bindName (l : Nat) : Option String → List Mention
  | none => []
  | some n => [.bind n l]

mutual

/-- The names and values in a pattern. -/
def pattern : Pattern → List Mention
  | .value e _ => tree e
  | .sequence ps _ => patterns ps
  | .mapping es rest l => trees (es.map (·.1)) ++ entries es ++ bindName l rest
  | .classOf c ps ks _ => tree c ++ patterns ps ++ attributes ks
  | .star n l => bindName l n
  | .capture inner n l => patternOption inner ++ bindName l n
  | .alternatives ps _ => patterns ps

def patterns : List Pattern → List Mention
  | [] => []
  | p :: ps => pattern p ++ patterns ps

def patternOption : Option Pattern → List Mention
  | none => []
  | some p => pattern p

def entries : List (Tree × Pattern) → List Mention
  | [] => []
  | (_, p) :: r => pattern p ++ entries r

def attributes : List (String × Pattern) → List Mention
  | [] => []
  | (_, p) :: r => pattern p ++ attributes r

end

/-- The name that an import binds. -/
def imported (i : Import) : Mention :=
  if i.path == ["*"] then .importAll i.line
  else .importing (i.alias?.getD (i.path.headD "")) i.line

mutual

def stmt : Stmt → List Mention
  | .mk a start _ => action start.line a

/-- The mentions in an action that starts on a line. -/
def action (l : Nat) : Action → List Mention
  | .function isAsync name ps returns ds body =>
    .bind name l :: defaults false ps ++ defaults true ps ++
      .hint true :: parameterHints ps ++ .hint false :: (returns.map inHint).getD [] ++
      trees ds ++ .enter (.function isAsync) name :: parameters ps ++ stmts body ++ [.leave]
  | .classDef name bs ks ds body =>
    .bind name l :: trees bs ++ keywords ks ++ trees ds ++
      .enter .classBody name :: stmts body ++ [.leave]
  | .ret v => option v
  | .delete ts => targetItems ts
  | .assign ts v => targetItems ts ++ tree v
  | .augAssign t _ v => target t ++ tree v
  | .annAssign t h v simple =>
    (match t with
      | .mk l (.name n) => [.hinted n simple v.isSome l]
      | t => target t) ++ inHint h ++ option v
  | .forIn _ t i b o => target t ++ tree i ++ stmts b ++ stmts o
  | .whileTrue e b o | .ifTrue e b o => tree e ++ stmts b ++ stmts o
  | .withItems _ is b =>
    is.flatMap (fun (e, t) => tree e ++ (t.map target).getD []) ++ stmts b
  | .matchOn e cs => tree e ++ cases cs
  | .raise e c => option e ++ option c
  | .tryBlock b hs o f _ => stmts b ++ stmts o ++ handlers hs ++ stmts f
  | .assert e m => tree e ++ option m
  | .importModules is => is.map imported
  | .importFrom _ _ is => is.map imported
  | .global ns => ns.map fun n => .declare true n l
  | .nonlocal ns => ns.map fun n => .declare false n l
  | .expr e => tree e
  | .pass | .break | .continue => []

def stmts : List Stmt → List Mention
  | [] => []
  | s :: ss => stmt s ++ stmts ss

def handlers : List Handler → List Mention
  | [] => []
  | .mk type name body l :: hs => option type ++ bindName l name ++ stmts body ++ handlers hs

def cases : List Case → List Mention
  | [] => []
  | .mk p guard? body :: cs => pattern p ++ option guard? ++ stmts body ++ cases cs

end

end Mention

end Exemplar.Syntax
