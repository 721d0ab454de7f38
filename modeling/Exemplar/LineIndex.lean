import Exemplar.Text.Lines

/-
  Places in a source text. A place is a line and a column in bytes of UTF-8, a character offset
  into the whole text, or a line and a column in characters; the index of the lines converts
  between them.
-/

namespace Exemplar

/-- The lines of a text, each with its line end. -/
structure LineIndex where
  lines : List (List Char)

namespace LineIndex

def ofText (text : List Char) : LineIndex := ⟨Text.sourceLines text⟩

/-- The number of characters of the text. -/
def size (x : LineIndex) : Nat := x.lines.flatten.length

/-- How many leading characters lie wholly within the first `n` bytes. -/
def charsWithin : Nat → List Char → Nat
  | _, [] => 0
  | n, c :: r => if c.utf8Size ≤ n then charsWithin (n - c.utf8Size) r + 1 else 0

/-- The length of a line in bytes. -/
def byteLength (line : List Char) : Nat := line.foldr (fun c n => c.utf8Size + n) 0

/-- The bytes up to a column; a negative column counts from the end of the line. -/
def bytesUpTo (line : List Char) (column : Int) : Nat :=
  if column < 0 then (column + byteLength line).toNat else column.toNat

/-- The character offset at which a line, counted from 0, starts. -/
def start (x : LineIndex) (i : Nat) : Nat := (x.lines.take i).flatten.length

/-- The character offset of a line, counted from 1, and a byte column; a line that is not there is
at the end of the text. -/
def offset (x : LineIndex) (line column : Int) : Nat :=
  if line < 1 then x.size else
  match x.lines[line.toNat - 1]? with
  | none => x.size
  | some l => x.start (line.toNat - 1) + charsWithin (bytesUpTo l column) l

/-- Walks the lines to the one that holds the offset; the last line holds its end too. -/
def positionFrom : List (List Char) → Nat → Nat × Nat
  | [], o => (1, o + 1)
  | [_], o => (1, o + 1)
  | l :: ls, o =>
    if o < l.length then (1, o + 1)
    else
      let (line, column) := positionFrom ls (o - l.length)
      (line + 1, column)

/-- The line and the column, both counted from 1, of a character offset; an offset outside the text
is moved to its nearer end. -/
def position (x : LineIndex) (offset : Int) : Nat × Nat :=
  positionFrom x.lines (min (max offset 0) x.size).toNat

end LineIndex

end Exemplar
