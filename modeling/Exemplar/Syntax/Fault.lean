/-
  Why a source text is refused: a message and the line that it is about.
-/

namespace Exemplar.Syntax

/-- What a refusal is about: the text in general, its indentation, or tabs in it. -/
inductive FaultClass
  | general | indentation | tabs
  deriving DecidableEq

namespace FaultClass

/-- The name of the exception that reports the refusal. -/
def name : FaultClass → String
  | general => "SyntaxError"
  | indentation => "IndentationError"
  | tabs => "TabError"

end FaultClass

structure SyntaxFault where
  message : String
  line : Int
  about : FaultClass := .general
  deriving DecidableEq

/-- The part of a path after its last slash. -/
def baseName (path : String) : String :=
  String.ofList ((path.toList.reverse.takeWhile (· != '/')).reverse)

/-- The message with the name of the file and the line. -/
def SyntaxFault.text (f : SyntaxFault) (filename : String) : String :=
  f.message ++ " (" ++ baseName filename ++ ", line " ++ toString f.line ++ ")"

end Exemplar.Syntax
