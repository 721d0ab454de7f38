import Exemplar.Console
import Exemplar.Text.Cased

/-
  Log records: fields in order, some of which have a column of their own on a console. A record is
  tidied before it is shown: the level in capitals, the subsystem in place of the dotted name of
  the logger, and file and line as one location.

  Loggers: they hand records on with a level, a message with its arguments, and fields, to which
  they add the subsystem that they stand for and the depth of the caller.
-/

namespace Exemplar.Log

/-- A record: its fields in order. -/
abbrev Record := List (String × Json)

namespace Record

def get? (r : Record) (key : String) : Option Json := r.lookup key

def erase (r : Record) (key : String) : Record := r.filter fun f => f.1 != key

/-- Sets a field, in its place or at the end. -/
def put (r : Record) (key : String) (value : Json) : Record :=
  match r with
  | [] => [(key, value)]
  | (k, v) :: fs => if k == key then (k, value) :: fs else (k, v) :: put fs key value

/-- Whether a value counts as present. -/
def counts : Json → Bool
  | .null => false
  | .bool b => b
  | .int n => n != 0
  | .float x => !x.isZero
  | .str s => !s.isEmpty
  | .arr items => !items.isEmpty
  | .obj fields => !fields.isEmpty

/-- The value of a field that counts. -/
def present? (r : Record) (key : String) : Option Json := (r.get? key).filter counts

/-- Fields that are for the logging itself. -/
def internalKeys : List String := ["stacklevel", "extra"]

/-- The level in capitals. -/
def withLevel (r : Record) : Record :=
  match r.get? "level" with
  | none | some .null => r
  | some v => r.put "level" (.str (Text.upper v.plain))

/-- One name in place of subsystem and logger. -/
def withName (r : Record) : Record :=
  let rest := (r.erase "subsystem").erase "logger"
  match (r.present? "subsystem").or (r.present? "logger") with
  | some name => rest.put "logger_name" name
  | none => rest

/-- One location in place of file and line. -/
def withLocation (r : Record) : Record :=
  let rest := (r.erase "filename").erase "lineno"
  match r.present? "filename", r.present? "lineno" with
  | some f, some n => rest.put "location" (.str ("(" ++ f.plain ++ ":" ++ n.plain ++ ")"))
  | _, _ => rest

/-- The record in the form that is shown. -/
def tidy (r : Record) : Record :=
  withLocation (withName (internalKeys.foldl erase (withLevel r)))

/-! ### On a console -/

def reset : String := "\x1b[0m"
def dim : String := "\x1b[90m"
def blue : String := "\x1b[94m"

def levelColors : List (String × String) :=
  [("CRITICAL", "\x1b[1;31m"), ("ERROR", "\x1b[31m"), ("WARNING", "\x1b[33m"),
   ("INFO", "\x1b[36m"), ("DEBUG", "\x1b[32m")]

/-- A value in a color; nothing for a value that does not count. -/
def painted (color : String) (v : Json) : String :=
  if counts v then color ++ v.plain ++ reset else ""

def levelColumn (v : Json) : String :=
  if !counts v then ""
  else match levelColors.lookup v.plain with
    | some color => "[" ++ color ++ v.plain ++ reset ++ "]"
    | none => "[" ++ v.plain ++ "]"

def nameColumn (v : Json) : String :=
  if counts v then "[" ++ painted blue v ++ "]" else ""

def eventColumn : Json → String
  | .null => ""
  | v => v.plain

/-- The columns in order, each with what it shows of its field. -/
def columns : List (String × (Json → String)) :=
  [("timestamp", painted dim), ("level", levelColumn), ("logger_name", nameColumn),
   ("event", eventColumn), ("location", painted dim)]

/-- Fields with traces, which follow the line. -/
def traceKeys : List String := ["stack", "exception", "exc_info"]

/-- The text of a trace, on lines of its own; only a text can stand there. -/
def trace : Json → Except Raised String
  | .null => .ok ""
  | .str s => .ok ("\n" ++ s)
  | j => .error (.typeError ("can only concatenate str (not \"" ++ j.typeWord ++ "\") to str"))

/-- The traces of a record, parted by a rule. -/
def traces (r : Record) : Except Raised String := do
  let field (key : String) : Json := (r.get? key).getD .null
  let rule := "\n\n" ++ String.ofList (List.replicate 79 '=') ++ "\n"
  let parted := (r.present? "exc_info").isSome || !(field "exception").isNull
  let stack ← trace (field "stack")
  let exception ← trace (field "exception")
  return stack ++ (if parted && !(field "stack").isNull then rule else "") ++ exception

/-- The record on a console: its columns, then the values of its other fields, one blank between
what is not empty. -/
def line (r : Record) : Except Raised String := do
  let shown := columns.filterMap fun (k, f) => (r.get? k).map f
  let others := (traceKeys ++ columns.map (·.1)).foldl erase r
  let parts := (shown ++ others.map fun f => f.2.plain).filter fun s => !s.isEmpty
  let cs := (" ".intercalate parts).toList
  return String.ofList (cs.reverse.dropWhile (· == ' ')).reverse ++ (← traces r)

end Record

/-- What a logger can be asked for: to log at a level that is its first argument, or at a level of
its own. -/
inductive Method
  | log | debug | info | warning | error | exception
  deriving DecidableEq

namespace Method

def name : Method → String
  | log => "log"
  | debug => "debug"
  | info => "info"
  | warning => "warning"
  | error => "error"
  | exception => "exception"

/-- The number of the level that a method logs at, if it is not an argument. -/
def level? : Method → Option Int
  | log => none
  | debug => some 10
  | info => some 20
  | warning => some 30
  | error => some 40
  | exception => some 40

/-- The arguments that a method must be given, in order. -/
def required : Method → List String
  | log => ["level", "msg"]
  | _ => ["msg"]

end Method

/-- What a base logger is handed. -/
structure Entry where
  level : Json
  message : Json
  args : List Json
  fields : Record

/-- A logger over a base logger, with the subsystem of records that name none. -/
structure Logger where
  subsystem : String := "ENGINE"

namespace Logger

/-- The logger over the same base for another subsystem. -/
def forSubsystem (_ : Logger) (subsystem : String) : Logger := ⟨subsystem⟩

/-- The name of the class in messages about arguments. -/
def className : String := "InstantCodeLogger"

/-- The name of its module in them. -/
def moduleName : String := "instantcode.utils.logging_utils"

def repeated (method key : String) : Raised :=
  .typeError (className ++ "." ++ method ++ "() got multiple values for argument '" ++ key ++ "'")

/-- The fault of a method that lacks arguments; there are at most two of them. -/
def missing (method : String) (names : List String) : Raised :=
  let quoted := names.map fun n => "'" ++ n ++ "'"
  .typeError (className ++ "." ++ method ++ "() missing " ++ toString names.length ++
    " required positional argument" ++ (if names.length == 1 then "" else "s") ++ ": " ++
    " and ".intercalate quoted)

/-- The arguments that a method must be given, those that are left and the fields that are left.
What the arguments do not fill is taken from the fields; a field with the name of a filled
argument is refused. -/
def bind (m : Method) (args : List Json) (fields : Record) :
    Except Raised (List Json × List Json × Record) :=
  let filled := "self" :: m.required.take args.length
  let unfilled := m.required.drop args.length
  match fields.find? fun f => filled.contains f.1 with
  | some f => .error (repeated m.name f.1)
  | none =>
    match unfilled.filter fun k => (fields.get? k).isNone with
    | [] =>
      .ok (args.take m.required.length ++ unfilled.filterMap fields.get?,
        args.drop m.required.length, unfilled.foldl Record.erase fields)
    | names => .error (missing m.name names)

/-- One more than a depth. -/
def deeper : Json → Except Raised Json
  | .int n => .ok (.int (n + 1))
  | .bool b => .ok (.int (if b then 2 else 1))
  | .float x => .ok (.float (.ofFloat (x.toFloat + 1)))
  | .str _ => .error (.typeError "can only concatenate str (not \"int\") to str")
  | .arr _ => .error (.typeError "can only concatenate list (not \"int\") to list")
  | j =>
    .error (.typeError ("unsupported operand type(s) for +: '" ++ j.typeWord ++ "' and 'int'"))

/-- The entry for a message at a level; `stacklevel` callers stand between it and the base. -/
def entry (l : Logger) (level message : Json) (args : List Json) (fields : Record) :
    Except Raised Entry := do
  let depth ← deeper ((fields.get? "stacklevel").getD (.int 1))
  let subsystem := (fields.present? "subsystem").getD (.str l.subsystem)
  let rest := (fields.erase "subsystem").erase "stacklevel"
  pure ⟨level, message, args, [("subsystem", subsystem), ("stacklevel", depth)] ++ rest⟩

/-- Logs at the level that is the first argument. -/
def log (l : Logger) (args : List Json) (fields : Record) : Except Raised Entry := do
  match ← bind .log args fields with
  | ([level, message], args, fields) => l.entry level message args fields
  | _ => .error (missing Method.log.name Method.log.required)

/-- Logs through a method. Those with a level of their own stand one caller deeper, which no field
may say; an exception is attached unless a field says otherwise. -/
def call (l : Logger) (m : Method) (args : List Json) (fields : Record) : Except Raised Entry :=
  match m.level? with
  | none => l.log args fields
  | some level => do
    let (bound, args, fields) ← bind m args fields
    if (fields.get? "stacklevel").isSome then
      .error (.typeError (moduleName ++ "." ++ className ++
        ".log() got multiple values for keyword argument 'stacklevel'"))
    else
      let fields := if m == .exception && (fields.get? "exc_info").isNone
        then fields.put "exc_info" (.bool true) else fields
      l.log (.int level :: bound ++ args) (("stacklevel", .int 2) :: fields)

end Logger

end Exemplar.Log
