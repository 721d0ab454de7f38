import Exemplar.Datum
import Exemplar.Raised
import Exemplar.Text.Lines

/-
  Markup: a tag in square brackets changes how a console shows what follows. Text that is to be
  shown as it is has its tags marked with a backslash; backslashes in front of a tag are doubled,
  so that they do not mark it themselves.

  Output in two modes. People get markup and tables on two consoles; programs get one JSON document
  on a line for everything that is written. Where the output is no terminal, it is for programs.

  What is written, as it looks on a screen that shows text only: tags are left out, marked ones are
  shown as they are, and the columns of a table are filled with blanks.
-/

namespace Exemplar.Markup

/-- Characters that a tag can start with. -/
def opensTag (c : Char) : Bool :=
  ('a' ≤ c && c ≤ 'z') || c == '#' || c == '/' || c == '@'

/-- Whether a bracket closes before another one opens. -/
def closes : List Char → Bool
  | [] => false
  | c :: r => if c == ']' then true else if c == '[' then false else closes r

/-- Whether the text after an opening bracket makes it a tag. -/
def isTag : List Char → Bool
  | [] => false
  | c :: r => opensTag c && closes r

/-- Marks all tags; `slashes` backslashes have just been passed. -/
def markTags (slashes : Nat) : List Char → List Char
  | [] => []
  | c :: r =>
    if c == '\\' then c :: markTags (slashes + 1) r
    else if c == '[' && isTag r then List.replicate (slashes + 1) '\\' ++ c :: markTags 0 r
    else c :: markTags 0 r

/-- Doubles a last backslash that stands alone, so that it does not mark what is put behind. -/
def closeSlash (s : List Char) : List Char :=
  match s.reverse with
  | '\\' :: '\\' :: _ => s
  | '\\' :: _ => s ++ ['\\']
  | _ => s

/-- The markup that shows a text as it is. -/
def escape (s : String) : String := String.ofList (closeSlash (markTags 0 s.toList))

end Exemplar.Markup

namespace Exemplar

namespace Console

/-- What can be asked to be written; a value of another kind than these is refused. -/
inductive Payload
  | message (text : String)
  | error (message : Json)
  | mapping (fields : List (String × Json))
  | other (value : Json)

/-- What a console is handed. -/
inductive Item
  | markup (text : String)
  | table (title : Json) (columns : List Json) (rows : List (List String))

inductive Screen
  | stdout | stderr
  deriving DecidableEq

/-- What has been written: lines for programs, items for people. -/
structure Written where
  lines : String := ""
  printed : List (Screen × Item) := []

/-- Whether output is for programs. -/
def jsonMode (asked isTerminal : Bool) : Bool := asked || !isTerminal

/-- The keys that make a mapping a table. -/
def tableKeys : List String := ["title", "columns", "rows"]

def isTable (fields : List (String × Json)) : Bool :=
  tableKeys.all fun k => (fields.lookup k).isSome

/-- The error for a value that is no mapping. -/
def noMapping (j : Json) : Raised :=
  ⟨"AttributeError", "'" ++ j.typeWord ++ "' object has no attribute 'keys'"⟩

/-- The document for a payload. -/
def Payload.toJson : Payload → Except Raised Json
  | .message s => .ok (.obj [("message", .str s)])
  | .error m => .ok (.obj [("error", m)])
  | .mapping fields =>
    .ok (if isTable fields then .obj [("table", .obj fields)] else .obj fields)
  | .other j => .error (noMapping j)

/-- What iterating over a value yields. -/
def elements : Json → Except Raised (List Json)
  | .arr items => .ok items
  | .obj fields => .ok (fields.map fun f => .str f.1)
  | .str s => .ok (s.toList.map fun c => .str (String.singleton c))
  | j => .error (.typeError ("'" ++ j.typeWord ++ "' object is not iterable"))

/-- The markup of a cell. -/
def cell : Json → Except Raised String
  | .str s => .ok (Markup.escape s)
  | j => .error (.typeError ("expected string or bytes-like object, got '" ++ j.typeWord ++ "'"))

/-- Fills a row up to a length. -/
def fill {α : Type} (n : Nat) (a : α) (xs : List α) : List α :=
  xs ++ List.replicate (n - xs.length) a

/-- A table with as many columns as its longest row has cells. -/
def table (fields : List (String × Json)) : Except Raised Item := do
  let part (k : String) : Json := (Json.field? k fields).getD .null
  let columns ← elements (part "columns")
  let rows ← (← elements (part "rows")).mapM fun row => do (← elements row).mapM cell
  let width := rows.foldl (fun n r => Nat.max n r.length) columns.length
  pure (.table (part "title") (fill width (.str "") columns) (rows.map (fill width "")))

/-- The markup for a field of a mapping. -/
def fieldMarkup (f : String × Json) : String :=
  let value := match f.2 with
    | .arr items => (Json.arr items).toAscii
    | .obj fields => (Json.obj fields).toAscii
    | j => j.plain
  "[bold]" ++ f.1 ++ ":[/bold] " ++ value

/-- What a payload puts on the consoles. -/
def items : Payload → Except Raised (List (Screen × Item))
  | .message s => .ok [(.stdout, .markup s)]
  | .error m => do
    pure [(.stderr, .markup ("[bold red]Error:[/bold red] " ++ (← cell m)))]
  | .mapping fields =>
    if isTable fields then do
      let t ← table fields
      pure [(.stdout, t)]
    else .ok (fields.map fun f => (.stdout, .markup (fieldMarkup f)))
  | .other j => .error (noMapping j)

/-- Writes a payload, for programs or for people. -/
def write (forPrograms : Bool) (p : Payload) : Except Raised Written :=
  if forPrograms then p.toJson.map fun j => { lines := j.toAscii ++ "\n" }
  else (items p).map fun printed => { printed := printed }

end Console

end Exemplar

namespace Exemplar.Screen

/-- The rest after the bracket that closes a tag. -/
def afterTag : List Char → List Char
  | [] => []
  | c :: r => if c == ']' then r else afterTag r

theorem length_afterTag_le (s : List Char) : (afterTag s).length ≤ s.length := by
  induction s with
  | nil => simp [afterTag]
  | cons c r ih =>
    simp only [afterTag]
    split
    · simp
    · simp only [List.length_cons]; omega

/-- The text that markup shows. -/
def shown (s : List Char) : List Char :=
  match s with
  | [] => []
  | '\\' :: '[' :: r => if Markup.isTag r then '[' :: shown r else '\\' :: '[' :: shown r
  | c :: r => if c == '[' && Markup.isTag r then shown (afterTag r) else c :: shown r
termination_by s.length
decreasing_by
  all_goals
    simp only [List.length_cons]
    have := length_afterTag_le r
    omega

/-- A line of cells, each filled up to the width of its column. -/
def row (widths : List Nat) (cells : List String) : String :=
  let filled := (cells.zip widths).map fun (c, w) =>
    c ++ String.ofList (List.replicate (w - c.length) ' ')
  String.ofList (Text.trimRight ("  ".intercalate filled).toList)

/-- The widths of columns. -/
def widths (rows : List (List String)) : List Nat :=
  rows.foldl (fun ws r =>
    let n := max ws.length r.length
    ((List.range n).map fun i => max (ws.getD i 0) (r.getD i "").length)) []

/-- The lines of an item. -/
def lines : Console.Item → List String
  | .markup s => [String.ofList (shown s.toList)]
  | .table title columns rows =>
    let body := rows.map fun r => r.map fun c => String.ofList (shown c.toList)
    let rows := columns.map Json.plain :: body
    title.plain :: rows.map (row (widths rows))

/-- The text that goes to a screen. -/
def text (screen : Console.Screen) (w : Console.Written) : String :=
  let own := w.printed.filterMap fun (s, item) => if s == screen then some item else none
  let shown := String.join ((own.flatMap lines).map (· ++ "\n"))
  if screen == .stdout then w.lines ++ shown else shown

end Exemplar.Screen
