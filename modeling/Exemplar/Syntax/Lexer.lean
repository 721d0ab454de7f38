import Exemplar.Decimal.Numeral
import Exemplar.Syntax.Token
import Exemplar.Text.Identifier

/-
  Cutting a source text into tokens. One lexeme is scanned at the front of the text without regard
  to places; around that, a loop skips blanks and comments, keeps the open brackets and the
  indentation, and notes where each token starts and stops.
-/

namespace Exemplar.Syntax

/-- A lexeme, the characters it takes and the rest of the text. -/
abbrev Scan := Except LexFault (Lexeme × List Char × List Char)

def isDigit (c : Char) : Bool := '0' ≤ c && c ≤ '9'

def isHexDigit (c : Char) : Bool :=
  isDigit c || ('a' ≤ c && c ≤ 'f') || ('A' ≤ c && c ≤ 'F')

/-- Characters that are scanned as part of a word; beyond ASCII all are, to be checked after. -/
def isWordPart (c : Char) : Bool := c.isAlphanum || c == '_' || 128 ≤ c.toNat

def isWordStart (c : Char) : Bool := c.isAlpha || c == '_' || 128 ≤ c.toNat

/-! Words -/

/-- The first character that an identifier cannot have in its place. -/
def badIdentifierChar? : List Char → Option Char
  | [] => none
  | c :: r => if Text.isIdentifierStart c then r.find? (!Text.isIdentifierContinue ·) else some c

def scanWord (cs : List Char) : Scan :=
  let word := cs.takeWhile isWordPart
  let rest := cs.dropWhile isWordPart
  match badIdentifierChar? word with
  | none => .ok (.word (String.ofList word), word, rest)
  | some c => .error (.badCharacter c)

/-! Numbers -/

/-- Digits that may be parted by single underscores. -/
def digitsTail (digit : Char → Bool) (fault : Char → LexFault) :
    List Char → Except LexFault (List Char × List Char)
  | [] => .ok ([], [])
  | c :: r =>
    if digit c then do
      let (ds, rest) ← digitsTail digit fault r
      pure (c :: ds, rest)
    else if c == '_' then
      match r with
      | d :: _ =>
        if digit d then do
          let (ds, rest) ← digitsTail digit fault r
          pure (c :: ds, rest)
        else .error (fault d)
      | [] => .error (fault '\n')
    else .ok ([], c :: r)

def decimalTail : List Char → Except LexFault (List Char × List Char) :=
  digitsTail isDigit fun _ => .badNumber "decimal"

/-- Keywords that may follow a number at once. -/
def followsNumber (cs : List Char) : Bool :=
  ["and", "else", "for", "if", "in", "is", "or", "not"].any fun w => w.toList.isPrefixOf cs

/-- Refuses a number that runs into a word. -/
def endNumber (kind : String) (rest : List Char) : Except LexFault Unit :=
  match rest with
  | c :: _ =>
    if followsNumber rest then .ok ()
    else if isWordPart c then .error (.badNumber kind) else .ok ()
  | [] => .ok ()

/-- Drops underscores. -/
def plainDigits (ds : List Char) : List Char := ds.filter (· != '_')

/-- The natural number that digits write in a base. -/
def ofDigitsIn (base : Nat) (ds : List Char) : Nat :=
  ds.foldl (fun n c => base * n +
    (if isDigit c then c.toNat - 48 else if 'a' ≤ c then c.toNat - 87 else c.toNat - 55)) 0

/-- A number with a point or an exponent, or an imaginary one, once its text is known. -/
def realNumber (digits : List Char) (imaginary : Bool) : Lexeme :=
  let x := (Numeral.readDecimal? false (plainDigits digits)).getD .zero
  .number (if imaginary then .imaginary x else .float x)

/-- The rest of a number after its digits and fraction: exponent and letter for imaginary. -/
def scanExponent (taken : List Char) (isReal : Bool) (rest : List Char) : Scan := do
  let finish (taken : List Char) (isReal : Bool) (rest : List Char) : Scan := do
    match rest with
    | c :: r =>
      if c == 'j' || c == 'J' then do
        endNumber "imaginary" r
        pure (realNumber taken true, taken ++ [c], r)
      else do
        endNumber "decimal" rest
        if isReal then pure (realNumber taken false, taken, rest)
        else
          let ds := plainDigits taken
          if 4300 < ds.length then pure (.longNumber ds.length, taken, rest)
          else pure (.number (.int (Numeral.ofDigits ds)), taken, rest)
    | [] =>
      if isReal then pure (realNumber taken false, taken, [])
      else
        let ds := plainDigits taken
        if 4300 < ds.length then pure (.longNumber ds.length, taken, [])
        else pure (.number (.int (Numeral.ofDigits ds)), taken, [])
  match rest with
  | e :: r =>
    if e == 'e' || e == 'E' then
      match r with
      | s :: t =>
        if s == '+' || s == '-' then
          match t with
          | d :: _ =>
            if isDigit d then do
              let (ds, rest) ← decimalTail t
              finish (taken ++ e :: s :: ds) true rest
            else .error (.badNumber "decimal")
          | [] => .error (.badNumber "decimal")
        else if isDigit s then do
          let (ds, rest) ← decimalTail r
          finish (taken ++ e :: ds) true rest
        else finish taken isReal rest
      | [] => finish taken isReal rest
    else finish taken isReal rest
  | [] => finish taken isReal rest

/-- The rest of a number after the digits in front of a possible point. -/
def scanFraction (taken rest : List Char) : Scan :=
  match rest with
  | '.' :: r => do
    let (ds, rest) ← match r with
      | d :: _ => if isDigit d then decimalTail r else pure ([], r)
      | [] => pure ([], r)
    scanExponent (taken ++ '.' :: ds) true rest
  | _ => scanExponent taken false rest

/-- Digits after a prefix for another base. -/
def scanInBase (base : Nat) (kind : String) (digit : Char → Bool) (front cs : List Char) :
    Scan := do
  let fault := fun c =>
    if isDigit c && base < 10 then LexFault.badDigit c kind else .badNumber kind
  let (lead, cs') := match cs with
    | '_' :: r => (['_'], r)
    | r => ([], r)
  match cs' with
  | c :: _ =>
    if digit c then do
      let (ds, rest) ← digitsTail digit fault cs'
      match rest with
      | d :: _ => if isDigit d then .error (.badDigit d kind) else endNumber kind rest
      | [] => pure ()
      let n := ofDigitsIn base (plainDigits ds)
      pure (.number (.int n), front ++ lead ++ ds, rest)
    else .error (fault c)
  | [] => .error (.badNumber kind)

/-- A number at the front of the text, which starts with a digit or with a point and a digit. -/
def scanNumber (cs : List Char) : Scan :=
  match cs with
  | '0' :: r =>
    match r with
    | 'x' :: t => scanInBase 16 "hexadecimal" isHexDigit ['0', 'x'] t
    | 'X' :: t => scanInBase 16 "hexadecimal" isHexDigit ['0', 'X'] t
    | 'o' :: t => scanInBase 8 "octal" (fun c => '0' ≤ c && c ≤ '7') ['0', 'o'] t
    | 'O' :: t => scanInBase 8 "octal" (fun c => '0' ≤ c && c ≤ '7') ['0', 'O'] t
    | 'b' :: t => scanInBase 2 "binary" (fun c => c == '0' || c == '1') ['0', 'b'] t
    | 'B' :: t => scanInBase 2 "binary" (fun c => c == '0' || c == '1') ['0', 'B'] t
    | _ => do
      let (ds, rest) ← decimalTail cs
      let nonzero := (plainDigits ds).any (· != '0')
      let goesOn := match rest with
        | c :: _ => c == '.' || c == 'e' || c == 'E' || c == 'j' || c == 'J'
        | [] => false
      if nonzero && !goesOn then .error .leadingZeros else scanFraction ds rest
  | '.' :: _ => scanFraction [] cs
  | _ => do
    let (ds, rest) ← decimalTail cs
    scanFraction ds rest

/-! Texts -/

/-- The body of a text in single quotes `q`, and the rest after the closing quote; nothing if the
line or the text ends before. The first result is what was passed when it ended. -/
def shortBody (q : Char) : List Char → Except (List Char) (List Char × List Char)
  | [] => .error []
  | '\\' :: c :: r =>
    match shortBody q r with
    | .ok (b, rest) => .ok ('\\' :: c :: b, rest)
    | .error passed => .error ('\\' :: c :: passed)
  | c :: r =>
    if c == q then .ok ([], r)
    else if c == '\n' then .error []
    else
      match shortBody q r with
      | .ok (b, rest) => .ok (c :: b, rest)
      | .error passed => .error (c :: passed)

/-- The body of a text between three quotes `q`. -/
def longBody (q : Char) : List Char → Except (List Char) (List Char × List Char)
  | [] => .error []
  | '\\' :: c :: r =>
    match longBody q r with
    | .ok (b, rest) => .ok ('\\' :: c :: b, rest)
    | .error passed => .error ('\\' :: c :: passed)
  | c :: r =>
    if c == q && [q, q].isPrefixOf r then .ok ([], r.drop 2)
    else
      match longBody q r with
      | .ok (b, rest) => .ok (c :: b, rest)
      | .error passed => .error (c :: passed)

/-- The letters in front of a text and what they ask for; each at most once, and only `r` beside
another. -/
def prefixFlags? (letters : List Char) : Option Quotation :=
  match letters.map Char.toLower with
  | [] => some { body := [] }
  | ['r'] => some { raw := true, body := [] }
  | ['u'] => some { marked := letters == ['u'], body := [] }
  | ['b'] => some { bytes := true, body := [] }
  | ['f'] => some { formatted := true, body := [] }
  | ['b', 'r'] | ['r', 'b'] => some { bytes := true, raw := true, body := [] }
  | ['f', 'r'] | ['r', 'f'] => some { formatted := true, raw := true, body := [] }
  | _ => none

/-- A text that starts here, if one does: letters in front and a quote. -/
def splitPrefix? (cs : List Char) : Option (List Char × Char × List Char) :=
  let letters := (cs.take 3).takeWhile Char.isAlpha
  match cs.drop letters.length with
  | q :: r => if (q == '\'' || q == '"') && letters.length ≤ 2 then some (letters, q, r) else none
  | [] => none

/-- A text after its letters `front` and its first quote. -/
def scanText (place : Place) (front : List Char) (flags : Quotation) (q : Char) (r : List Char) :
    Scan :=
  if [q, q].isPrefixOf r then
    match longBody q (r.drop 2) with
    | .ok (body, rest) =>
      .ok (.text { flags with body := body }, front ++ [q, q, q] ++ body ++ [q, q, q], rest)
    | .error passed =>
      .error (.unterminatedText true (place.afterAll (front ++ [q, q, q] ++ passed)).lastLine)
  else
    match shortBody q r with
    | .ok (body, rest) =>
      .ok (.text { flags with body := body }, front ++ q :: body ++ [q], rest)
    | .error passed =>
      .error (.unterminatedText false (place.afterAll (front ++ q :: passed)).line)

/-! Signs -/

def threeCharOps : List String := ["**=", "//=", ">>=", "<<=", "..."]

def twoCharOps : List String :=
  ["!=", "%=", "&=", "**", "*=", "+=", "-=", "->", "//", "/=", ":=", "<<", "<=", "<>", "==", ">=",
   ">>", "@=", "^=", "|="]

/-- A sign of up to three characters. A printable character that is no sign is taken as one, and
no rule of the grammar accepts it. -/
def scanOp (cs : List Char) : Scan :=
  let three := String.ofList (cs.take 3)
  let two := String.ofList (cs.take 2)
  if threeCharOps.contains three then .ok (.op three, cs.take 3, cs.drop 3)
  else if twoCharOps.contains two then .ok (.op two, cs.take 2, cs.drop 2)
  else
    match cs with
    | c :: r =>
      if c.toNat < 32 || c.toNat == 127 then .error (.badCharacter c)
      else .ok (.op (String.ofList [c]), [c], r)
    | [] => .error (.badCharacter ' ')

/-- The lexeme at the front of a text that starts with no blank. -/
def scanLexeme (place : Place) (cs : List Char) : Scan :=
  match splitPrefix? cs with
  | some (letters, q, r) =>
    match prefixFlags? letters with
    | some flags => scanText place letters flags q r
    | none => scanWord cs
  | none =>
    match cs with
    | c :: r =>
      if isWordStart c then scanWord cs
      else if isDigit c then scanNumber cs
      else if c == '.' && r.head?.any isDigit then scanNumber cs
      else scanOp cs
    | [] => scanOp cs

/-! Brackets -/

/-- Open brackets with their lines, the innermost first. -/
abbrev Brackets := List (Char × Nat)

def closerOf : Char → Char
  | '(' => ')'
  | '[' => ']'
  | _ => '\x7d'

/-- The open brackets after a sign on a line. -/
def bracketsAfter (open' : Brackets) (line : Nat) (sign : String) : Except LexFault Brackets :=
  match sign.toList with
  | [c] =>
    if c == '(' || c == '[' || c == '\x7b' then
      if 200 ≤ open'.length then .error .tooManyBrackets else .ok ((c, line) :: open')
    else if c == ')' || c == ']' || c == '\x7d' then
      match open' with
      | [] => .error (.unmatched c)
      | (o, l) :: rest =>
        if closerOf o == c then .ok rest
        else .error (.mismatched c o (if l == line then none else some l))
    else .ok open'
  | _ => .ok open'

/-! Layout -/

/-- How far a line is indented: with tabs up to the next multiple of eight, with tabs as one
column, and at the first line that a backslash continued. -/
structure Indent where
  column : Nat := 0
  alternate : Nat := 0
  continued : Nat := 0

/-- Measures the blanks in front of a line. -/
def measure (m : Indent) (p : Place) :
    List Char → Except (LexFault × Nat) (Indent × Place × List Char)
  | ' ' :: r =>
    measure { m with column := m.column + 1, alternate := m.alternate + 1 } (p.after ' ') r
  | '\t' :: r =>
    measure { m with column := (m.column / 8 + 1) * 8, alternate := m.alternate + 1 }
      (p.after '\t') r
  | '\x0c' :: r => measure { m with column := 0, alternate := 0 } (p.after '\x0c') r
  | '\\' :: '\n' :: r =>
    if r.isEmpty then .error (.endAfterContinuation, p.line)
    else
      measure { m with continued := if m.continued == 0 then m.column else m.continued }
        ((p.after '\\').after '\n') r
  | '\\' :: _ => .error (.badContinuation, p.line)
  | cs => .ok (m, p, cs)

/-- The enclosing indentations, the innermost first. -/
abbrev Indents := List (Nat × Nat)

/-- Leaves the indentations deeper than a column; answers how many. -/
def unindent (column : Nat) : Indents → Nat × Indents
  | (c, a) :: r =>
    if column < c then
      let (n, rest) := unindent column r
      (n + 1, rest)
    else (0, (c, a) :: r)
  | [] => (0, [])

/-- The marks at the start of a line and the indentations after them. -/
def layout (m : Indent) (indents : Indents) : Except LexFault (List Lexeme × Indents) :=
  let (column, alternate) :=
    if m.continued == 0 then (m.column, m.alternate) else (m.continued, m.continued)
  let (top, topAlternate) := indents.headD (0, 0)
  if column == top then
    if alternate == topAlternate then .ok ([], indents) else .error .mixedTabs
  else if top < column then
    if 99 ≤ indents.length then .error .tooManyIndents
    else if alternate ≤ topAlternate then .error .mixedTabs
    else .ok ([.indent], (column, alternate) :: indents)
  else
    let (n, rest) := unindent column indents
    let (top, topAlternate) := rest.headD (0, 0)
    if column != top then .error .badDedent
    else if alternate != topAlternate then .error .mixedTabs
    else .ok (List.replicate n .dedent, rest)

def isSkipped (c : Char) : Bool := c == ' ' || c == '\t' || c == '\x0c'

mutual

/-- Tokens from the start of a line on. Every call takes a character, comes to the end or goes on
inside the line; the count of characters bounds the calls. -/
def lexLine : Nat → Indents → Brackets → Place → List Char → Lexed
  | 0, _, _, _, _ => ⟨[], none⟩
  | fuel + 1, indents, open', p, cs =>
    match measure {} p cs with
    | .error (f, line) => ⟨[], some ⟨f, line, open'.head?⟩⟩
    | .ok (m, p, cs) =>
      let blank := match cs with
        | c :: _ => c == '#' || c == '\n'
        | [] => false
      if blank || !open'.isEmpty then lexRest fuel blank indents open' p cs
      else
        match layout m indents with
        | .error f => ⟨[], some ⟨f, p.line, open'.head?⟩⟩
        | .ok (marks, indents) =>
          let place := if cs.isEmpty then ⟨p.lastLine, p.column⟩ else p
          marks.foldr (fun l rest => rest.cons ⟨l, place, place⟩)
            (lexRest fuel false indents open' p cs)

/-- Tokens from inside a line on; `blank` tells that the line holds nothing so far and nothing but
a comment to come. -/
def lexRest : Nat → Bool → Indents → Brackets → Place → List Char → Lexed
  | 0, _, _, _, _, _ => ⟨[], none⟩
  | fuel + 1, blank, indents, open', p, cs =>
    match cs with
    | [] =>
      match open' with
      | (c, line) :: _ => ⟨[], some ⟨.neverClosed c, line, open'.head?⟩⟩
      | [] =>
        let place := ⟨p.lastLine, p.column⟩
        ⟨[⟨.stop, place, place⟩], none⟩
    | c :: r =>
      if isSkipped c then lexRest fuel blank indents open' (p.after c) r
      else if c == '#' then
        let comment := cs.takeWhile (· != '\n')
        lexRest fuel blank indents open' (p.afterAll comment) (cs.drop comment.length)
      else if c == '\n' then
        let rest := lexLine fuel indents open' (p.after c) r
        if blank || !open'.isEmpty then rest else rest.cons ⟨.newline, p, p.after c⟩
      else if c == '\\' then
        match r with
        | '\n' :: t =>
          if t.isEmpty then ⟨[], some ⟨.endAfterContinuation, p.line, open'.head?⟩⟩
          else lexRest fuel false indents open' ((p.after c).after '\n') t
        | _ => ⟨[], some ⟨.badContinuation, p.line, open'.head?⟩⟩
      else
        match scanLexeme p cs with
        | .error f => ⟨[], some ⟨f, p.line, open'.head?⟩⟩
        | .ok (lexeme, taken, rest) =>
          let after := p.afterAll taken
          match lexeme with
          | .op sign =>
            match bracketsAfter open' p.line sign with
            | .error f => ⟨[], some ⟨f, p.line, open'.head?⟩⟩
            | .ok open' => (lexRest fuel false indents open' after rest).cons ⟨lexeme, p, after⟩
          | _ => (lexRest fuel false indents open' after rest).cons ⟨lexeme, p, after⟩

end

/-- The tokens of a text that starts on a line and whose line ends are line feeds. -/
def lexFrom (line : Nat) (cs : List Char) : Lexed :=
  lexLine (2 * cs.length + 3) [] [] ⟨line, 0⟩ cs

/-- The tokens of a text whose line ends are line feeds. -/
def lex (cs : List Char) : Lexed := lexFrom 1 cs

end Exemplar.Syntax
