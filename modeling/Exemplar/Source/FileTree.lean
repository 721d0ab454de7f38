import Exemplar.Fault
import Exemplar.Raised
import Exemplar.Source.Utf8
import Exemplar.Text.Lines
import Exemplar.Text.Quoted

/-
  Paths of files in their short form: no empty or `.` components, and a suffix that starts at the
  last point of the last component unless that point is its first or last character.

  Files below the current directory, and reading a source file from them: it has to exist, to have
  the suffix of a source file and to hold UTF-8; all line ends are read as line feeds.
-/

namespace Exemplar

/-- A path: what it starts with and its components. -/
structure FilePath where
  /-- Nothing for a relative path, else one slash or two. -/
  root : String
  parts : List String
  deriving DecidableEq, Inhabited

namespace FilePath

/-- Cuts a text at each slash. -/
def splitSlashes : List Char → List (List Char)
  | [] => [[]]
  | '/' :: r => [] :: splitSlashes r
  | c :: r =>
    match splitSlashes r with
    | [] => [[c]]
    | p :: ps => (c :: p) :: ps

/-- Two slashes in front, and no third, are kept; else one. -/
def rootOf (s : List Char) : String :=
  match (s.takeWhile (· == '/')).length with
  | 0 => ""
  | 2 => "//"
  | _ => "/"

def ofText (s : String) : FilePath :=
  ⟨rootOf s.toList,
    ((splitSlashes s.toList).filter fun p => !p.isEmpty && p != ['.']).map String.ofList⟩

/-- The path as text; the empty path is the current directory. -/
def text (p : FilePath) : String :=
  if p.root.isEmpty && p.parts.isEmpty then "." else p.root ++ "/".intercalate p.parts

/-- The last component. -/
def name (p : FilePath) : String := p.parts.getLastD ""

/-- The part of the last component from its last point on, or nothing. -/
def suffix (p : FilePath) : String :=
  let name := p.name.toList
  let tail := (name.reverse.takeWhile (· != '.')).length
  if tail == 0 || name.length ≤ tail + 1 then ""
  else String.ofList (name.drop (name.length - tail - 1))

end FilePath

/-- What is found under a path. -/
inductive Entry
  | file (bytes : List UInt8)
  | directory
  deriving DecidableEq

/-- The files and directories that are there by their components. -/
structure FileTree where
  entries : List (List String × Entry)

/-- Why the system refuses a path. -/
inductive Refusal
  | missing | notDirectory | isDirectory | nameTooLong
  deriving DecidableEq

/-- A refusal of the system, with the text of the path. -/
structure SystemFailure where
  refusal : Refusal
  path : String

/-- The number, the text and the exception of a refusal. -/
def Refusal.account : Refusal → Nat × String × String
  | .missing => (2, "No such file or directory", "FileNotFoundError")
  | .notDirectory => (20, "Not a directory", "NotADirectoryError")
  | .isDirectory => (21, "Is a directory", "IsADirectoryError")
  | .nameTooLong => (36, "File name too long", "OSError")

/-- The exception for a refusal of the system. -/
def SystemFailure.raised (f : SystemFailure) : Raised :=
  let (number, text, name) := f.refusal.account
  ⟨name, "[Errno " ++ toString number ++ "] " ++ text ++ ": " ++ Text.quote f.path⟩

/-- Why a source file was not read. -/
inductive ReadFailure
  | fault (f : Fault)
  | other (e : Raised)

namespace FileTree

/-- The component that stands for the directory around another one. -/
def up : String := ".."

/-- The places that are directories whatever the tree holds: the current one, those around it, and
the root. -/
def isGiven (place : List String) : Bool := place.all (· == up) || place == ["/"]

/-- The entry at a place; a place above another entry is a directory. -/
def entryAt (t : FileTree) (place : List String) : Option Entry :=
  if isGiven place then some .directory else
  match t.entries.find? fun e => e.1 == place with
  | some e => some e.2
  | none => if t.entries.any fun e => place.isPrefixOf e.1 then some .directory else none

/-- The place of a component seen from a directory; there is none around the root. -/
def step (here : List String) (p : String) : List String :=
  if p != up then here ++ [p]
  else if here == ["/"] then here
  else if here.all (· == up) then here ++ [up]
  else here.dropLast

/-- Follows components from a place; only directories can be passed. -/
def follow (t : FileTree) (here : List String) : List String → Option (List String)
  | [] => some here
  | p :: ps => if t.entryAt here == some .directory then t.follow (step here p) ps else none

/-- The place where a path starts. -/
def origin (p : FilePath) : List String := if p.root.isEmpty then [] else ["/"]

/-- The entry that a path leads to. -/
def lookup (t : FileTree) (p : FilePath) : Option Entry :=
  (t.follow (origin p) p.parts).bind t.entryAt

/-- The tree in which all that is known is what a path leads to. -/
def along (p : FilePath) (e : Entry) : FileTree :=
  let places := p.parts.foldl (fun places c => step (places.headD []) c :: places) [origin p]
  ⟨match places with
    | [] => []
    | last :: rest => (last, e) :: rest.map fun place => (place, .directory)⟩

/-- The suffixes of source files. -/
def sourceSuffixes : List String := [".py", ".pyw"]

/-- The bytes that a component of a path may have. -/
def componentLimit : Nat := 255

/-- The bytes that the text of a path may have. -/
def pathLimit : Nat := 4095

/-- Whether the system refuses a path for its length. A long component counts only where the
components before it can be passed. -/
def isTooLong (t : FileTree) (p : FilePath) : Bool :=
  pathLimit < p.text.utf8ByteSize ||
    let fits (c : String) : Bool := c.utf8ByteSize ≤ componentLimit
    !p.parts.all fits &&
      ((t.follow (origin p) (p.parts.takeWhile fits)).bind t.entryAt) == some .directory

/-- The text of a source file. -/
def readSource (t : FileTree) (p : FilePath) : Except ReadFailure (List Char) :=
  if t.isTooLong p then .error (.other (SystemFailure.raised ⟨.nameTooLong, p.text⟩))
  else
  match t.lookup p with
  | some (.file bytes) =>
    if sourceSuffixes.contains p.suffix then
      match Utf8.decode bytes with
      | .ok cs => .ok (Text.unifyLineEnds cs)
      | .error f => .error (.other ⟨"UnicodeDecodeError", f.message⟩)
    else
      .error (.fault (.unsupportedFile p.text (if p.suffix.isEmpty then none else some p.suffix)))
  | _ => .error (.fault (.missingFile p.text))

/-- Directories that every system has. -/
def usual (place : List String) : Bool :=
  [["/", "dev"], ["/", "etc"], ["/", "home"], ["/", "proc"], ["/", "root"], ["/", "sys"],
    ["/", "tmp"], ["/", "usr"], ["/", "var"]].contains place

/-- Whether a place is a directory for a file that is to be made. -/
def holdsFiles (t : FileTree) (place : List String) : Bool :=
  usual place || t.entryAt place == some .directory

/-- The directory that components lead to, where a file is to be made. -/
def enter (t : FileTree) (here : List String) : List String → Except Refusal (List String)
  | [] => .ok here
  | c :: cs =>
    let there := step here c
    if t.holdsFiles there then t.enter there cs
    else .error (if (t.entryAt there).isSome then .notDirectory else .missing)

/-- The tree after a file was opened to be written at its end; it is made where it is missing. -/
def opened (t : FileTree) (p : FilePath) : Except SystemFailure FileTree :=
  let found : Except Refusal FileTree := do
    if t.isTooLong p then throw .nameTooLong
    let around ← t.enter (origin p) p.parts.dropLast
    match p.parts.getLast? with
    | none => throw .isDirectory
    | some c =>
      let place := step around c
      if t.holdsFiles place then throw .isDirectory
      if (t.entryAt place).isSome then return t
      return ⟨t.entries ++ [(place, .file [])]⟩
  found.mapError fun r => ⟨r, p.text⟩

end FileTree

end Exemplar
