import Exemplar.Fault
import Exemplar.Syntax.Diagnosis
import Exemplar.Syntax.Parser.Stmt
import Exemplar.Syntax.Scope
import Exemplar.Text.Lines

/-
  Source files as statements. A text is accepted when it falls into statements that keep the rules
  of scopes; every other text is at fault, and the fault tells where.
-/

namespace Exemplar

/-- The message about a text that holds the null character. -/
def nullCharacterMessage : String := "source code string cannot contain null bytes"

/-- A source text with its statements, under the name that messages use for it. -/
structure Module where
  filename : String
  text : List Char
  body : List Stmt

namespace Module

/-- The name that a text without a file has. -/
def defaultName : String := "<instantcode>"

/-- The statements of a text or what is wrong with it. -/
def statements (text : List Char) : Except Syntax.SyntaxFault (List Stmt) :=
  let cs := Syntax.endLine (Text.unifyLineEnds text)
  match Syntax.parseFile? cs with
  | none => .error (Syntax.diagnoseFile cs)
  | some body =>
    match Syntax.scopeFault? body with
    | some f => .error f
    | none => .ok body

def parse (filename : String) (text : List Char) : Except Fault Module :=
  if text.contains '\x00' then
    .error (.unparsable filename nullCharacterMessage none (some nullCharacterMessage))
  else
    match statements text with
    | .ok body => .ok ⟨filename, text, body⟩
    | .error f => .error (.unparsable filename f.message (some f.line) (some (f.text filename)))

end Module

end Exemplar
