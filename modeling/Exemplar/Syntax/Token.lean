import Exemplar.Syntax.Expr

/-
  Tokens: the words, numbers, texts and signs of a source text with their places, and the marks of
  its layout. A place is a line counted from 1 and a column in bytes of UTF-8.
-/

namespace Exemplar.Syntax

structure Place where
  line : Nat
  column : Nat
  deriving DecidableEq, Inhabited

/-- The place after a character. -/
def Place.after (p : Place) (c : Char) : Place :=
  if c == '\n' then ⟨p.line + 1, 0⟩ else ⟨p.line, p.column + c.utf8Size⟩

/-- The place after some characters. -/
def Place.afterAll (p : Place) (cs : List Char) : Place := cs.foldl Place.after p

/-- The line that a text has come to at its end: a line that has not begun does not count. -/
def Place.lastLine (p : Place) : Nat := if p.column == 0 then p.line - 1 else p.line

/-- A text between quotes: what its letters in front ask for, and what stands between. -/
structure Quotation where
  raw : Bool := false
  formatted : Bool := false
  bytes : Bool := false
  marked : Bool := false
  body : List Char
  deriving DecidableEq, Inhabited

inductive Lexeme
  /-- A name or a keyword. -/
  | word (s : String)
  | number (c : Constant)
  /-- A decimal number of more digits than are read. -/
  | longNumber (digits : Nat)
  | text (q : Quotation)
  | op (s : String)
  | newline
  | indent
  | dedent
  | stop
  deriving DecidableEq, Inhabited

/-- Whether the lexeme only marks layout. -/
def Lexeme.isLayout : Lexeme → Bool
  | .newline | .indent | .dedent | .stop => true
  | _ => false

structure Token where
  lexeme : Lexeme
  start : Place
  stop : Place
  deriving Inhabited

/-- Words that are never names. -/
def keywords : List String :=
  ["False", "None", "True", "and", "as", "assert", "async", "await", "break", "class", "continue",
   "def", "del", "elif", "else", "except", "finally", "for", "from", "global", "if", "import", "in",
   "is", "lambda", "nonlocal", "not", "or", "pass", "raise", "return", "try", "while", "with",
   "yield"]

/-- Why a text does not fall into tokens. -/
inductive LexFault
  | badCharacter (c : Char)
  | unterminatedText (triple : Bool) (line : Nat)
  | unmatched (c : Char)
  /-- The line of the opening bracket is given where it differs. -/
  | mismatched (c opening : Char) (line : Option Nat)
  | tooManyBrackets
  | neverClosed (opening : Char)
  | badNumber (kind : String)
  | badDigit (c : Char) (kind : String)
  | leadingZeros
  | badContinuation
  | endAfterContinuation
  | badDedent
  | mixedTabs
  | tooManyIndents
  deriving DecidableEq

/-- A fault on a line, and the innermost bracket that is open there, with its line. -/
structure LexStop where
  fault : LexFault
  line : Nat
  bracket : Option (Char × Nat) := none

/-- The tokens of a text up to its end or up to a fault. -/
structure Lexed where
  tokens : List Token
  fault : Option LexStop

namespace Lexed

def cons (t : Token) (l : Lexed) : Lexed := ⟨t :: l.tokens, l.fault⟩

/-- All tokens, if there is no fault. -/
def tokens? (l : Lexed) : Option (List Token) := if l.fault.isNone then some l.tokens else none

end Lexed

end Exemplar.Syntax
