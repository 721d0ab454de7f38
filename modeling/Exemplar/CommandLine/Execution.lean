import Exemplar.Console
import Exemplar.Session
import Exemplar.Settings.Environment
import Exemplar.Source.FileTree

/-
  Options on a command line. A long name may carry its value after an equals sign; short names may
  stand together behind one dash, the last of them with its value attached. A value may look like
  an option, and two dashes end the options.

  The commands: one that runs the functions of a file and one that shows their parameters. Options
  before the name of the command hold for both.

  Carrying out a command. A fault is written as an error and ends the program with 1, misuse of the
  command line with 2. The annotations of a session are taken from the caller, who chooses the
  source of decisions and the evaluator.
-/

namespace Exemplar.CommandLine

/-- An option: its names, whether it takes a value, and what it stands for. -/
structure Switch (α : Type) where
  names : List String
  takesValue : Bool
  meaning : α

/-- The option of that name. -/
def named? {α : Type} (table : List (Switch α)) (name : String) : Option (Switch α) :=
  table.find? fun s => s.names.contains name

/-- What one argument holds: options with their values, and one whose value is the next
argument. -/
structure Cluster (α : Type) where
  found : List (α × String) := []
  open? : Option α := none

/-- Short names behind one dash. -/
def readShort {α : Type} (table : List (Switch α)) : List Char → Option (Cluster α)
  | [] => some {}
  | c :: r =>
    match named? table (String.ofList ['-', c]) with
    | none => none
    | some s =>
      if !s.takesValue then
        (readShort table r).map fun k => { k with found := (s.meaning, "") :: k.found }
      else if r.isEmpty then some { open? := some s.meaning }
      else some { found := [(s.meaning, String.ofList r)] }

/-- Whether a name is a long one. -/
def isLong (name : String) : Bool := name.startsWith "--"

/-- One argument that starts with a dash. -/
def readSwitch {α : Type} (table : List (Switch α)) (arg : String) : Option (Cluster α) :=
  let cs := arg.toList
  let name := String.ofList (cs.takeWhile (· != '='))
  let value? := if cs.contains '=' then some (String.ofList ((cs.dropWhile (· != '=')).drop 1))
    else none
  match if isLong name then named? table name else none with
  | some s =>
    match s.takesValue, value? with
    | true, some v => some { found := [(s.meaning, v)] }
    | true, none => some { open? := some s.meaning }
    | false, none => some { found := [(s.meaning, "")] }
    | false, some _ => none
  | none => if isLong arg then none else readShort table (cs.drop 1)

/-- Whether an argument is read as an option. -/
def isSwitch (arg : String) : Bool := arg.startsWith "-" && 1 < arg.length

/-- The options of a command line and its other arguments. Unless options may stand among them,
the first other argument ends the options. Nothing comes of a command line with an option that is
not in the table, lacks its value or has one that it does not take. -/
def scan {α : Type} (table : List (Switch α)) (among : Bool) :
    List String → Option (List (α × String) × List String)
  | [] => some ([], [])
  | arg :: rest =>
    if arg == "--" then some ([], rest)
    else if isSwitch arg then
      match readSwitch table arg with
      | none => none
      | some k =>
        match k.open?, rest with
        | none, rest => (scan table among rest).map fun (os, as) => (k.found ++ os, as)
        | some m, v :: rest =>
          (scan table among rest).map fun (os, as) => (k.found ++ (m, v) :: os, as)
        | some _, [] => none
    else if among then (scan table among rest).map fun (os, as) => (os, arg :: as)
    else some ([], arg :: rest)

/-- What is to be done with the file at a path. -/
inductive Command
  | run (path : String) (options : Settings.Options) (showOutput : Bool)
  | signatures (path : String)

def Command.path : Command → String
  | .run p _ _ => p
  | .signatures p => p

/-- What a command's own options and arguments ask for. -/
inductive Asked
  | command (c : Command)
  | help
  /-- They break the rules of the command. -/
  | misuse

/-- What a command line asks for. -/
inductive Request
  /-- A command that exists: whether its output is for programs where that is said, the file that
  log records go to, and what its own part of the line asks for. -/
  | command (json : Option Bool) (logFile : Option String) (asked : Asked)
  | help
  /-- It breaks the rules of the command line. -/
  | misuse

inductive GlobalOption
  | level | logFile | debug | json | noJson | help
  deriving DecidableEq

def globalOptions : List (Switch GlobalOption) :=
  [⟨["--log-level", "-l"], true, .level⟩, ⟨["--log-file"], true, .logFile⟩,
   ⟨["--debug"], false, .debug⟩, ⟨["--json"], false, .json⟩, ⟨["--no-json"], false, .noJson⟩,
   ⟨["--help", "-h"], false, .help⟩]

def levels : List String := ["DEBUG", "INFO", "WARNING", "ERROR", "CRITICAL"]

inductive RunOption
  | seed | timeout | memoryLimit | allowImport | showOutput | help
  deriving DecidableEq

def runOptions : List (Switch RunOption) :=
  [⟨["--seed"], true, .seed⟩, ⟨["--timeout", "-t"], true, .timeout⟩,
   ⟨["--memory-limit"], true, .memoryLimit⟩, ⟨["--allow-import", "-a"], true, .allowImport⟩,
   ⟨["--show-output"], false, .showOutput⟩, ⟨["--help", "-h"], false, .help⟩]

def signaturesOptions : List (Switch RunOption) := [⟨["--help", "-h"], false, .help⟩]

/-- The last value that an option was given. -/
def last? {α : Type} [BEq α] (o : α) (found : List (α × String)) : Option String :=
  found.reverse.lookup o

/-- The last value of an option through a reader; refused if the reader refuses it. -/
def readLast {α β : Type} [BEq α] (o : α) (reader : String → Option β)
    (found : List (α × String)) : Option (Option β) :=
  match last? o found with
  | none => some none
  | some v => (reader v).map some

/-- The `run` command from its options and arguments. -/
def runCommand (found : List (RunOption × String)) (args : List String) : Option Command := do
  let seed ← readLast .seed Environment.integer? found
  let timeout ← readLast .timeout (fun v => Numeral.readFloat? v.toList) found
  let memory ← readLast .memoryLimit Environment.integer? found
  let imports := found.filterMap fun (o, v) => if o == .allowImport then some v else none
  match args with
  | [path] =>
    some (.run path ⟨seed, timeout.map .float, memory, imports⟩ (last? .showOutput found).isSome)
  | _ => none

def signaturesCommand (args : List String) : Option Command :=
  match args with
  | [path] => some (.signatures path)
  | _ => none

/-- What the scanned options and arguments of a command ask for; help goes before all that can be
wrong with values and arguments. -/
def asked (scanned : Option (List (RunOption × String) × List String))
    (make : List (RunOption × String) → List String → Option Command) : Asked :=
  match scanned with
  | none => .misuse
  | some (found, args) =>
    if (last? .help found).isSome then .help else (make found args).elim .misuse .command

/-- Whether output for programs is asked for or refused, by the last option that says so. -/
def jsonChoice (found : List (GlobalOption × String)) : Option Bool :=
  found.foldl (fun choice (o, _) =>
    match o with
    | .json => some true
    | .noJson => some false
    | _ => choice) none

/-- What the arguments of the program ask for. -/
def Request.ofArgs (args : List String) : Request :=
  match scan globalOptions false args with
  | none => .misuse
  | some (found, rest) =>
    if (last? .help found).isSome then .help
    else if !((last? .level found).elim true levels.contains) then .misuse
    else
      let within := Request.command (jsonChoice found)
        ((last? .logFile found).filter fun f => !f.isEmpty)
      match rest with
      | "run" :: rest => within (asked (scan runOptions true rest) runCommand)
      | "signatures" :: rest =>
        within (asked (scan signaturesOptions true rest) fun _ as => signaturesCommand as)
      | _ => .misuse

/-! ## Execution -/

/-- How the program ended. -/
structure Ended where
  code : Nat
  written : Console.Written := {}

/-- What surrounds a run of the program. -/
structure Surroundings where
  files : FileTree
  environment : Environment := []
  isTerminal : Bool := false

/-- Reads and parses a source file. -/
def load (files : FileTree) (path : FilePath) : Except ReadFailure Module := do
  let text ← files.readSource path
  match Module.parse path.text text with
  | .ok m => pure m
  | .error f => throw (.fault f)

/-- A payload written as the last thing that the program does. -/
def finish (forPrograms : Bool) (code : Nat) (p : Console.Payload) : Except Raised Ended :=
  (Console.write forPrograms p).map fun w => ⟨code, w⟩

/-- A fault as the end of the program. -/
def fail (forPrograms : Bool) (f : Fault) : Except Raised Ended :=
  finish forPrograms 1 (.error (.str f.message))

/-- A failure to read as the end of the program, unless it is an exception of its own. -/
def failReading (forPrograms : Bool) : ReadFailure → Except Raised Ended
  | .fault f => fail forPrograms f
  | .other e => .error e

/-- The document for an annotation. -/
def annotationJson (lines : LineIndex) (showOutput : Bool) (a : Annotation) : Json :=
  let (line, column) := lines.position a.anchor
  .obj [("name", .str a.name), ("line", .int line), ("column", .int column),
    ("anchor_position", .int a.anchor), ("display_text", .str a.display), ("call", .str a.call),
    ("ok", .bool a.verdict.ok), ("value", .ofOption a.verdict.value?),
    ("error", .ofOption a.verdict.error?),
    ("failure_kind", .ofOption (a.verdict.kind.map FailureKind.name)),
    ("output", if showOutput then .str a.verdict.output else .null)]

/-- The place of an offset as people read it. -/
def place (lines : LineIndex) (offset : Nat) : String :=
  let (line, column) := lines.position offset
  toString line ++ ":" ++ toString column

/-- A table of texts. -/
def tableOf (title : String) (columns : List String) (rows : List (List String)) :
    Console.Payload :=
  let texts (xs : List String) : Json := .arr (xs.map .str)
  .mapping [("title", .str title), ("columns", texts columns), ("rows", .arr (rows.map texts))]

/-- The row for an annotation. -/
def annotationRow (lines : LineIndex) (showOutput : Bool) (a : Annotation) : List String :=
  [place lines a.anchor, a.display] ++
    if showOutput then [String.ofList (Text.trimRight a.verdict.output.toList)] else []

/-- What the annotations of a file are written as. -/
def annotationsPayload (forPrograms : Bool) (path : String) (m : Module) (showOutput : Bool)
    (as : List Annotation) : Console.Payload :=
  let lines := LineIndex.ofText m.text
  if forPrograms then
    .mapping [("file", .str path),
      ("annotations", .arr (as.map (annotationJson lines showOutput)))]
  else if as.isEmpty then .message ("No callable top-level functions in " ++ path)
  else
    tableOf path (["Location", "Result"] ++ if showOutput then ["Output"] else [])
      (as.map (annotationRow lines showOutput))

/-- Runs the functions of a file. -/
def run (s : Surroundings) (forPrograms : Bool)
    (annotations : Settings → Module → Except Raised (List Annotation))
    (path : FilePath) (options : Settings.Options) (showOutput : Bool) : Except Raised Ended :=
  match Settings.ofOptions s.environment options with
  | .error f => fail forPrograms f
  | .ok settings =>
    match load s.files path with
    | .error e => failReading forPrograms e
    | .ok m => do
      let as ← annotations settings m
      finish forPrograms 0 (annotationsPayload forPrograms path.text m showOutput as)

/-- Shows the parameters of the functions of a file. -/
def signatures (s : Surroundings) (forPrograms : Bool) (path : FilePath) : Except Raised Ended :=
  match load s.files path with
  | .error e => failReading forPrograms e
  | .ok m =>
    match Callables.ofFile m.text m.body with
    | .error f => .error (Session.hintRaised f)
    | .ok cs => do
      let lines := LineIndex.ofText m.text
      let rows ← cs.mapM fun c => do
        return [place lines c.anchor, c.name, ← parametersText c.parameters]
      finish forPrograms 0 (tableOf path.text ["Location", "Name", "Parameters"] rows)

/-- Whether the text of a path names a directory, which is refused as misuse. -/
def isDirectory (files : FileTree) (path : String) : Bool :=
  files.lookup (.ofText path) == some .directory

/-- Runs a command. -/
def carryOut (s : Surroundings)
    (annotations : Settings → Module → Except Raised (List Annotation))
    (forPrograms : Bool) : Asked → Except Raised Ended
  | .misuse => .ok ⟨2, {}⟩
  | .help => .ok ⟨0, {}⟩
  | .command c =>
    if isDirectory s.files c.path then .ok ⟨2, {}⟩
    else
      match c with
      | .run path options showOutput =>
        run s forPrograms annotations (.ofText path) options showOutput
      | .signatures path => signatures s forPrograms (.ofText path)

/-- Runs the program on its arguments. The file for log records is opened before anything is done
with the command, and made where it is missing. -/
def execute (s : Surroundings)
    (annotations : Settings → Module → Except Raised (List Annotation))
    (args : List String) : Except Raised Ended :=
  match Request.ofArgs args with
  | .misuse => .ok ⟨2, {}⟩
  | .help => .ok ⟨0, {}⟩
  | .command json logFile asked => do
    let files ← match logFile with
      | none => pure s.files
      | some f => (s.files.opened (.ofText f)).mapError SystemFailure.raised
    carryOut { s with files := files } annotations
      (Console.jsonMode (json.getD false) s.isTerminal) asked

end Exemplar.CommandLine
