import Exemplar.Machine.Arguments
import Exemplar.Machine.Mathematics

/-
  The modules that programs may really import: what each of them holds, and its functions.

  Importing modules. A module is really imported only if the first part of its name is allowed; in
  the place of any other a program gets a stand-in, which bears the name that was asked for.
-/

namespace Exemplar.Machine.Library

/-- The modules that are there, each with the name that it has itself. -/
def modules : List (String × String) :=
  [("json", "json"), ("json.decoder", "json.decoder"), ("json.encoder", "json.encoder"),
   ("json.scanner", "json.scanner"), ("math", "math"), ("os", "os"), ("os.path", "posixpath"),
   ("sys", "sys")]

/-- Modules that hold others. -/
def packages : List String := ["json"]

/-- The modules that a module has as soon as it is imported. -/
def parts (path : String) : List (String × String) :=
  match path with
  | "json" =>
    [("decoder", "json.decoder"), ("encoder", "json.encoder"), ("scanner", "json.scanner")]
  | "os" => [("path", "os.path"), ("sys", "sys")]
  | _ => []

/-- The functions of a module. -/
def functions (path : String) : List String :=
  match path with
  | "math" => Mathematics.functions
  | "os" => ["_exit", "getcwd"]
  | "sys" => ["exit", "getrecursionlimit"]
  | _ => []

/-- The values of a module. -/
def values (path : String) : Exec Fields := do
  match path with
  | "math" =>
    pure [("pi", .float ⟨0x400921fb54442d18⟩), ("e", .float ⟨0x4005bf0a8b145769⟩),
      ("tau", .float ⟨0x401921fb54442d18⟩), ("inf", .float (.infinity false)),
      ("nan", ← Exec.float .nan)]
  | "os" =>
    let fields : Fields := (← get).environment.map fun (n, v) => (n, .str v)
    pure [("environ", ← Typing.dictOf fields), ("sep", .str "/"), ("name", .str "posix"),
      ("linesep", .str "\n"), ("curdir", .str "."), ("pardir", .str ".."), ("extsep", .str "."),
      ("pathsep", .str ":"), ("devnull", .str "/dev/null")]
  | "sys" =>
    let stream ← Exec.new .stream .plain
    pure [("stdout", stream), ("stderr", stream), ("maxsize", .int maxSize),
      ("maxunicode", .int 1114111), ("byteorder", .str "little"), ("platform", .str "linux"),
      ("argv", ← Method.listOf [.str "-c"])]
  | _ => pure []

/-! ### By name -/

/-- Calls a function of a module. -/
def call (e : Engine) (path name : String) (args : List Value) (named : Fields) : Exec Value := do
  let p : Passed := ⟨path ++ "." ++ name, name, args, named⟩
  match path, name with
  | "os", "_exit" =>
    let given ← p.fill ["status"] 1 1
    let code ← Measure.smallArgument e ((given.getD 0 none).getD .none)
    throw (.exit code)
  | "os", "getcwd" =>
    p.nothing
    pure (.str "/")
  | "sys", "exit" =>
    p.between 0 1
    match p.arg 0 with
    | .none => do Exec.raiseValue (← e.call (Value.exceptionType "SystemExit") [] [])
    | .tuple items => do Exec.raiseValue (← e.call (Value.exceptionType "SystemExit") items [])
    | v => do Exec.raiseValue (← e.call (Value.exceptionType "SystemExit") [v] [])
  | "sys", "getrecursionlimit" =>
    p.nothing
    pure (.int 1000)
  | "math", _ => Mathematics.call e p
  | _, _ => Method.unsupported p.full

end Exemplar.Machine.Library

namespace Exemplar.Machine.Import

/-- A module of the library, made when it is first asked for; modules may hold one another. -/
def load : Nat → String → Exec Value
  | 0, _ => pure .none
  | n + 1, path => do
    match (← get).modules.lookup path with
    | some m => pure m
    | none =>
      let name := (Library.modules.lookup path).getD path
      let functions : Fields :=
        (Library.functions path).map fun f => (f, .builtin (path ++ "." ++ f))
      let values ← Library.values path
      let start : Fields :=
        [("__name__", .str name), ("__doc__", .none), ("__package__", .str ""),
         ("__loader__", .none), ("__spec__", .none)]
      let m ← Exec.newObject
        { cls := .kind .module, names := .own (start ++ functions ++ values), data := .module name }
      modify fun s => { s with modules := (path, m) :: s.modules }
      for (part, inner) in Library.parts path do
        if let .object a := m then Typing.putName a part (← load n inner)
      pure m

/-- How deep modules hold one another. -/
def depth : Nat := 8

/-- The beginnings of a name that end in front of a dot, and the name itself. -/
def prefixes (parts : List String) : List String :=
  (List.range parts.length).map fun i => ".".intercalate (parts.take (i + 1))

/-- The modules that a name leads through; a module that holds another one knows it. -/
def loadAll : Option String → List String → Exec (List Value)
  | _, [] => pure []
  | parent, path :: rest => do
    if (Library.modules.lookup path).isNone then
      let reason := match parent with
        | some p =>
          if Library.packages.contains p then "" else "; '" ++ p ++ "' is not a package"
        | none => ""
      let text := "No module named '" ++ path ++ "'" ++ reason
      Exec.raiseWith "ModuleNotFoundError" [.str text] [("msg", .str text), ("name", .str path)]
    else
      let m ← load depth path
      if let some p := parent then
        if let .object a := ← load depth p then
          Typing.putName a (path.drop (p.length + 1)).toString m
      return m :: (← loadAll (some path) rest)

/-- Imports a module of the library: the last one that the name leads to if names are taken from
it, else the first. -/
def genuine (name : String) (hasNames : Bool) : Exec Value := do
  if name.isEmpty then Exec.valueError "Empty module name"
  let ms ← loadAll none (prefixes (name.splitOn "."))
  pure ((if hasNames then ms.getLast? else ms.head?).getD .none)

/-- Imports a module if that is allowed, else makes a stand-in. -/
def guarded (name : String) (level : Nat) (hasNames : Bool) : Exec Value := do
  let first := (name.splitOn ".").headD ""
  if level == 0 && (← get).allowed.contains first then genuine name hasNames
  else Attribute.standin (.str name)

/-- The function that imports modules as messages have it: its parameters and their defaults. -/
def importer : Function :=
  let parameters := ["name", "globals", "locals", "fromlist", "level"]
  let qualified := "make_import.<locals>.guarded_import"
  { code := .mk "guarded_import" qualified { ordinary := parameters } .plain {} .none []
    name := "guarded_import"
    qualified := qualified
    defaults := [.none, .none, .tuple [], .int 0] }

/-- The function that imports modules, called by a program. -/
def ofArguments (e : Engine) (args : List Value) (named : Fields) : Exec Value := do
  let given ← Arguments.bind importer args named
  let arg (i : Nat) : Value := (given.getD i none).getD .none
  if !(← Compare.equal e (arg 4) (.int 0)) then Attribute.standin (arg 0)
  else
    match ← Typing.unboxed (arg 0) with
    | .str name => do guarded name 0 (← Measure.truth e (arg 3))
    | v =>
      let f ← Attribute.get e v "partition"
      let _ ← e.call f [.str "."] []
      Attribute.standin v

end Exemplar.Machine.Import
