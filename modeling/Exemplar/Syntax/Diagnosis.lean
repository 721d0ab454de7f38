import Exemplar.Syntax.Diagnosis.Stmt
import Exemplar.Syntax.Lexer

/-
  Why a text is refused. It is read by the rules of the grammar, first without and then with those
  for common mistakes; if none of them has an opinion, the syntax is invalid at the last token that
  the first reading has looked at. Faults of tokens further on go before faults of grammar, brackets
  that stay open only if the reading has gone beyond their line.
-/

namespace Exemplar.Syntax

namespace Diagnosis

/-- What a text is to be. -/
inductive Whole
  | file | expression | field
  deriving DecidableEq

/-- How many brackets are open after each token. -/
def depths (tokens : List Token) : List Nat :=
  (tokens.foldl (fun (depth, done) t =>
    let depth := match t.lexeme with
      | .op "(" | .op "[" | .op "\x7b" => depth + 1
      | .op ")" | .op "]" | .op "\x7d" => depth - 1
      | _ => depth
    (depth, depth :: done)) (0, [])).2.reverse

open Reading in
/-- The rule of a whole text. -/
def wholeRule (self : Self) : Whole → Reading Unit
  | .file => do
    skip (self .statements)
    discard stop
  | .expression => do
    discard (expressions self)
    discard (many newline)
    discard stop
  | .field => discard (starExpressions self)

/-- How many rules may stand inside each other. -/
def depthFor (tokens : Nat) : Nat := 40 * (tokens + 4)

/-- Reads a text once. -/
def readOnce (source : Source) (whole : Whole) (helping : Bool) : Outcome Unit :=
  wholeRule (Reading.rules (depthFor source.tokens.size)) whole source { helping := helping }

/-- The line of a token. -/
def lineOf (source : Source) (place : Nat) : Nat := (source.tokens[place]?).elim 0 (·.start.line)

/-- A fault of grammar, unless one of the tokens goes before it. -/
def settle (stop : Option LexStop) (seen : Nat) (f : SyntaxFault) : SyntaxFault :=
  (stop.bind (·.overriding? seen)).getD f

def settleRefusal (stop : Option LexStop) (r : Refusal) : SyntaxFault :=
  match r.seen with
  | none => r.fault
  | some line => settle stop line r.fault

/-- The fault of a text that no rule for common mistakes knows. -/
def unknownFault (source : Source) (stop : Option LexStop) (last seen : Nat) : SyntaxFault :=
  let line := lineOf source seen
  match (source.tokens[last]?).map Token.lexeme with
  | some .indent => ⟨source.front ++ "unexpected indent", line, .indentation⟩
  | some .dedent => ⟨source.front ++ "unexpected unindent", line, .indentation⟩
  | _ => settle stop line ⟨source.front ++ "invalid syntax", lineOf source last, .general⟩

/-- The fault of a text from a line on, if it has one. -/
def examineTokens (source : Source) (stop : Option LexStop) (whole : Whole) :
    Option SyntaxFault :=
  match readOnce source whole false with
  | .refused r => some (settleRefusal stop r)
  | .answer _ _ => none
  | .failed plain =>
    match readOnce source whole true with
    | .refused r => some (settleRefusal stop r)
    | .answer _ helped | .failed helped =>
      some (unknownFault source stop (plain.reach - 1) (helped.reach - 1))

/-- The fault of a text from a line on, if it has one, with expressions in texts down to a depth. -/
def examine (whole : Whole) : Nat → Nat → List Char → Option SyntaxFault
  | 0, _, _ => none
  | depth + 1, line, cs =>
    let lexed := lexFrom line cs
    let source : Source := {
      tokens := lexed.tokens.toArray
      depths := (depths lexed.tokens).toArray
      fault := lexed.fault.map (·.syntaxFault)
      front := if whole == .field then FieldFault.mark else ""
      field := fun line source =>
        match examine .field depth line ('(' :: source ++ [')']) with
        | none => .ok ()
        | some f => .error f }
    examineTokens source lexed.fault whole

/-- The fault of a text that is refused. -/
def diagnose (whole : Whole) (cs : List Char) : SyntaxFault :=
  (examine whole (cs.length + 1) 1 cs).getD ⟨"invalid syntax", 1, .general⟩

end Diagnosis

/-- Why a text is no file. -/
def diagnoseFile (cs : List Char) : SyntaxFault := Diagnosis.diagnose .file cs

/-- Why a text is no expression. -/
def diagnoseExpr (cs : List Char) : SyntaxFault := Diagnosis.diagnose .expression cs

end Exemplar.Syntax
