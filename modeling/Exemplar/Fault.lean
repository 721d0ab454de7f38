import Exemplar.Text.Quoted

/-
  Faults: what can stop a run before any function is called. Each has a message, a stable code and
  the values that it arose from. Settings out of range and sources that cannot be read are faults;
  everything later is reported beside the function that it concerns.
-/

namespace Exemplar

/-- A value as a message shows it, and as it is quoted. -/
structure Shown where
  plain : String
  quoted : String
  deriving DecidableEq, Inhabited

namespace Shown

def ofText (s : String) : Shown := ⟨s, Text.quote s⟩

/-- A value that messages show as it is quoted. -/
def same (s : String) : Shown := ⟨s, s⟩

end Shown

/-- The kinds of fault, from the general to the particular. -/
inductive FaultKind
  | general | configuration | invalidSetting | source | unparsable | unsupportedFile | missingFile
  deriving DecidableEq

namespace FaultKind

/-- The kind that takes in this one. -/
def parent? : FaultKind → Option FaultKind
  | .general => none
  | .configuration => some .general
  | .invalidSetting => some .configuration
  | .source => some .general
  | .unparsable => some .source
  | .unsupportedFile => some .source
  | .missingFile => some .source

/-- The kind and all that take it in, the most particular first. -/
def lineage (k : FaultKind) : List FaultKind :=
  match k.parent? with
  | none => [k]
  | some p =>
    match p.parent? with
    | none => [k, p]
    | some q => [k, p, q]

end FaultKind

inductive Fault
  /-- A fault of one of the general kinds, with a message of its own. -/
  | plain (kind : FaultKind) (message : String) (code : Option String)
      (context : List (String × String))
  | invalidSetting (key : String) (value : Shown) (expected : String)
  | unparsable (filename message : String) (line : Option Int) (cause : Option String)
  | unsupportedFile (path : String) (suffix : Option String)
  | missingFile (path : String)
  deriving DecidableEq, Inhabited

namespace Fault

def kind : Fault → FaultKind
  | .plain k _ _ _ => k
  | .invalidSetting _ _ _ => .invalidSetting
  | .unparsable _ _ _ _ => .unparsable
  | .unsupportedFile _ _ => .unsupportedFile
  | .missingFile _ => .missingFile

def message : Fault → String
  | .plain _ m _ _ => m
  | .invalidSetting key value expected =>
    "Invalid configuration for '" ++ key ++ "': got " ++ value.plain ++ ", expected " ++ expected
  | .unparsable filename message line _ =>
    "Failed to parse " ++ filename ++
      (match line with
        | none => ""
        | some n => " at line " ++ toString n) ++
      (if message.isEmpty then "" else ": " ++ message)
  | .unsupportedFile path suffix =>
    "Unsupported file: " ++ path ++
      (match suffix with
        | none => ""
        | some s => if s.isEmpty then "" else " (type: " ++ s ++ ")")
  | .missingFile path => "File not found: " ++ path

/-- The stable tag. -/
def code : Fault → Option String
  | .plain _ _ c _ => c
  | .invalidSetting _ _ _ => some "INVALID_CONFIG"
  | .unparsable _ _ _ _ => some "SOURCE_PARSE_ERROR"
  | .unsupportedFile _ _ => some "UNSUPPORTED_FILE"
  | .missingFile _ => some "FILE_NOT_FOUND"

/-- A text that may be absent, quoted. -/
def quotedOption : Option String → String
  | none => "None"
  | some s => Text.quote s

/-- The values that the fault arose from, quoted. -/
def context : Fault → List (String × String)
  | .plain _ _ _ c => c
  | .invalidSetting key value expected =>
    [("config_key", Text.quote key), ("value", value.quoted), ("expected", Text.quote expected)]
  | .unparsable filename _ line cause =>
    [("filename", Text.quote filename),
     ("line", match line with
       | none => "None"
       | some n => toString n),
     ("original_error", quotedOption cause)]
  | .unsupportedFile path suffix =>
    [("file_path", Text.quote path), ("file_type", quotedOption suffix)]
  | .missingFile path => [("file_path", Text.quote path)]

end Fault

end Exemplar
