import Exemplar.Syntax.Escape
import Exemplar.Syntax.Fault
import Exemplar.Syntax.Token
import Exemplar.Text.Quoted

/-
  The messages about texts that do not fall into tokens and about texts between quotes that stand
  for nothing, and the search for the first fault in some of them side by side. The expressions in
  fields are examined by a function that is passed in.
-/

namespace Exemplar.Syntax

/-- The number of a character in hexadecimal, with four digits at least. -/
def codePoint (c : Char) : String :=
  let digits := (Nat.toDigits 16 c.toNat).map Char.toUpper
  "U+" ++ String.ofList (List.replicate (4 - digits.length) '0' ++ digits)

def single (c : Char) : String := "'" ++ String.singleton c ++ "'"

/-- What a number with too many digits is told. -/
def longNumberMessage (digits : Nat) : String :=
  "Exceeds the limit (4300 digits) for integer string conversion: value has " ++ toString digits ++
    " digits; use sys.set_int_max_str_digits() to increase the limit - Consider hexadecimal for " ++
    "huge integer literals to avoid decimal conversion limits."

namespace LexFault

def message : LexFault → String
  | .badCharacter c =>
    if Text.isPrintable c then "invalid character " ++ single c ++ " (" ++ codePoint c ++ ")"
    else "invalid non-printable character " ++ codePoint c
  | .unterminatedText triple line =>
    "unterminated " ++ (if triple then "triple-quoted " else "") ++
      "string literal (detected at line " ++ toString line ++ ")"
  | .unmatched c => "unmatched " ++ single c
  | .mismatched c opening line =>
    "closing parenthesis " ++ single c ++ " does not match opening parenthesis " ++
      single opening ++ (line.map fun l => " on line " ++ toString l).getD ""
  | .tooManyBrackets => "too many nested parentheses"
  | .neverClosed opening => single opening ++ " was never closed"
  | .badNumber kind => "invalid " ++ kind ++ " literal"
  | .badDigit c kind => "invalid digit " ++ single c ++ " in " ++ kind ++ " literal"
  | .leadingZeros =>
    "leading zeros in decimal integer literals are not permitted; use an 0o prefix for octal " ++
      "integers"
  | .badContinuation => "unexpected character after line continuation character"
  | .endAfterContinuation => "unexpected EOF while parsing"
  | .badDedent => "unindent does not match any outer indentation level"
  | .mixedTabs => "inconsistent use of tabs and spaces in indentation"
  | .tooManyIndents => "too many levels of indentation"

def about : LexFault → FaultClass
  | .badDedent | .tooManyIndents => .indentation
  | .mixedTabs => .tabs
  | _ => .general

/-- Whether the fault goes before any fault of grammar that stands in front of it. -/
def precedes : LexFault → Bool
  | .neverClosed _ | .badContinuation | .endAfterContinuation | .badDedent | .mixedTabs
  | .tooManyIndents => false
  | _ => true

end LexFault

namespace LexStop

/-- The fault of a bracket that is open to the end. -/
def bracketFault? (s : LexStop) : Option SyntaxFault :=
  s.bracket.map fun (c, line) => ⟨(LexFault.neverClosed c).message, line, .general⟩

/-- The fault for one who reads up to it; at the end of the text that is the open bracket. -/
def syntaxFault (s : LexStop) : SyntaxFault :=
  let own := ⟨s.fault.message, s.line, s.fault.about⟩
  match s.fault with
  | .endAfterContinuation => s.bracketFault?.getD own
  | _ => own

/-- The fault that goes before one of grammar, when the reading has come to a line. -/
def overriding? (s : LexStop) (line : Nat) : Option SyntaxFault :=
  if s.fault.precedes then some s.syntaxFault
  else if s.bracket.any fun (_, l) => l < line then s.bracketFault?
  else none

end LexStop

namespace FieldFault

/-- What stands in front of every message about a formatted text. -/
def mark : String := "f-string: "

def message (f : FieldFault) : String :=
  match f with
  | .empty sign =>
    if sign == '\x7d' then mark ++ "empty expression not allowed"
    else mark ++ "expression required before " ++ single sign
  | .loneBrace => mark ++ "single '\x7d' is not allowed"
  | .nestedTooDeeply => mark ++ "expressions nested too deeply"
  | .backslash => "f-string expression part cannot include a backslash"
  | .comment => "f-string expression part cannot include '#'"
  | .tooManyBrackets => mark ++ "too many nested parenthesis"
  | .unmatched c => mark ++ "unmatched " ++ single c
  | .mismatched c opening =>
    mark ++ "closing parenthesis " ++ single c ++ " does not match opening parenthesis " ++
      single opening
  | .unterminated => mark ++ "unterminated string"
  | .missedConversion => mark ++ "missed conversion character"
  | .badConversion s =>
    mark ++ "invalid conversion character " ++ Text.quote (String.ofList s) ++
      ": expected 's', 'r', or 'a'"
  | .expectingBrace => mark ++ "expecting '\x7d'"

end FieldFault

def TextFault.message : TextFault → String
  | .badEscape first last reason =>
    "(unicode error) 'unicodeescape' codec can't decode bytes in position " ++ toString first ++
      "-" ++ toString last ++ ": " ++ reason
  | .badByteEscape place => "(value error) invalid \\x escape at position " ++ toString place
  | .wideByte => "bytes can only contain ASCII literal characters"
  | .mixed => "cannot mix bytes and nonbytes literals"
  | .field f => f.message

/-- How quotations are examined: the first fault in the source of an expression on a line, what
stands in front of messages, and the line up to which the text has been read. -/
structure TextCheck where
  field : Nat → List Char → Except SyntaxFault Unit
  front : String
  seen : Nat

namespace TextCheck

def refuse (t : TextCheck) (line : Nat) (message : String) : Except SyntaxFault α :=
  .error ⟨t.front ++ message, line, .general⟩

/-- Refuses a literal part whose escapes stand for nothing. -/
def literal (t : TextCheck) (raw : Bool) (body : List Char) : Except SyntaxFault Unit :=
  match textOf raw body with
  | .ok _ => .ok ()
  | .error f => t.refuse t.seen f.message

mutual

/-- The first fault of a part of a quotation that starts on a line. -/
def part (t : TextCheck) (raw : Bool) (start : Nat) : FormatPart → Except SyntaxFault Unit
  | .literal body => t.literal raw body
  | .field source lines _ _ spec => do
    t.field (start + lines) source
    partsOf t raw start spec
  | .broken f => t.refuse t.seen f.message

def partsOf (t : TextCheck) (raw : Bool) (start : Nat) :
    Option (List FormatPart) → Except SyntaxFault Unit
  | none => .ok ()
  | some ps => parts t raw start ps

def parts (t : TextCheck) (raw : Bool) (start : Nat) : List FormatPart → Except SyntaxFault Unit
  | [] => .ok ()
  | p :: ps => do
    part t raw start p
    parts t raw start ps

end

/-- The first fault of a quotation that is not formatted. -/
def plain (t : TextCheck) (start : Nat) (q : Quotation) : Except SyntaxFault Unit :=
  if q.bytes then
    match bytesOf q with
    | .ok _ => .ok ()
    | .error .wideByte => t.refuse start TextFault.wideByte.message
    | .error f => t.refuse t.seen f.message
  else t.literal q.raw q.body

/-- The first fault of quotations side by side, each with its line; `bytes` tells what the one
before was. -/
def quotations (t : TextCheck) (bytes : Option Bool) :
    List (Nat × Quotation) → Except SyntaxFault Unit
  | [] => .ok ()
  | (start, q) :: qs => do
    if !q.formatted then t.plain start q
    if bytes.any (· != q.bytes) then t.refuse t.seen TextFault.mixed.message
    if q.formatted then t.parts q.raw start q.parts
    t.quotations (some q.bytes) qs

end TextCheck

end Exemplar.Syntax
