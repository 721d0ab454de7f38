/-
  White space: the characters that stripping removes and that separate words.

  Lines of a text. Source files end lines at line feed, carriage return or both; other texts also
  at the separators of Unicode.
-/

namespace Exemplar.Text

/-- White space in the wide sense: the separators of Unicode, the ASCII controls from tab to
carriage return, the four information separators and NEXT LINE. -/
def isBlank (c : Char) : Bool :=
  let n := c.toNat
  (9 ≤ n && n ≤ 13) || (28 ≤ n && n ≤ 32) || n == 0x85 || n == 0xa0 || n == 0x1680 ||
    (0x2000 ≤ n && n ≤ 0x200a) || n == 0x2028 || n == 0x2029 || n == 0x202f || n == 0x205f ||
    n == 0x3000

/-- The text without its leading white space. -/
def trimLeft (s : List Char) : List Char := s.dropWhile isBlank

/-- The text without its trailing white space. -/
def trimRight (s : List Char) : List Char := (s.reverse.dropWhile isBlank).reverse

/-- The text without white space at either end. -/
def trim (s : List Char) : List Char := trimRight (trimLeft s)

/-- `trim` on strings. -/
def strip (s : String) : String := String.ofList (trim s.toList)

/-! ## Lines -/

/-- Cuts a text after each line feed, carriage return and pair of both; a text that does not end
in one has a last line without. -/
def sourceLines : List Char → List (List Char)
  | [] => []
  | '\n' :: r => ['\n'] :: sourceLines r
  | '\r' :: '\n' :: r => ['\r', '\n'] :: sourceLines r
  | '\r' :: r => ['\r'] :: sourceLines r
  | c :: r =>
    match sourceLines r with
    | [] => [[c]]
    | l :: ls => (c :: l) :: ls

theorem flatten_sourceLines (s : List Char) : (sourceLines s).flatten = s := by
  fun_induction sourceLines s with
  | case1 => rfl
  | case2 r ih => simp [ih]
  | case3 r ih => simp [ih]
  | case4 r _ ih => simp [ih]
  | case5 c r _ _ _ h ih => simpa [h] using ih
  | case6 c r _ _ _ l ls h ih => simpa [h] using ih

/-- Line ends of all kinds as line feeds. -/
def unifyLineEnds : List Char → List Char
  | [] => []
  | '\r' :: '\n' :: r => '\n' :: unifyLineEnds r
  | '\r' :: r => '\n' :: unifyLineEnds r
  | c :: r => c :: unifyLineEnds r

/-- The characters at which any text may end a line. -/
def isLineBreak (c : Char) : Bool :=
  let n := c.toNat
  (10 ≤ n && n ≤ 13) || (28 ≤ n && n ≤ 30) || n == 0x85 || n == 0x2028 || n == 0x2029

/-- The lines of a text without their ends; `line` is the current line backwards. -/
def splitLinesFrom (line : List Char) : List Char → List (List Char)
  | [] => if line.isEmpty then [] else [line.reverse]
  | '\r' :: '\n' :: r => line.reverse :: splitLinesFrom [] r
  | c :: r =>
    if isLineBreak c then line.reverse :: splitLinesFrom [] r else splitLinesFrom (c :: line) r

/-- The lines of a text without their ends. -/
def splitLines (s : List Char) : List (List Char) := splitLinesFrom [] s

/-- The lines of a text with their ends. -/
def linesWithEnds : List Char → List (List Char)
  | [] => []
  | '\r' :: '\n' :: r => ['\r', '\n'] :: linesWithEnds r
  | c :: r =>
    if isLineBreak c then [c] :: linesWithEnds r
    else match linesWithEnds r with
      | [] => [[c]]
      | l :: ls => (c :: l) :: ls

/-- Tabs as blanks up to the next multiple of a width, from a column on. -/
def expandTabs (width column : Nat) : List Char → List Char
  | [] => []
  | c :: r =>
    if c == '\t' then
      let n := width - column % width
      List.replicate n ' ' ++ expandTabs width (column + n) r
    else c :: expandTabs width (if c == '\n' || c == '\r' then 0 else column + 1) r

end Exemplar.Text
