/-
  Exceptions by the name of their class and their text, as reports show them.
-/

namespace Exemplar

/-- An exception as a report shows it. -/
structure Raised where
  name : String
  text : String
  deriving DecidableEq, Inhabited

namespace Raised

/-- The name and the text, parted by a colon. -/
def report (e : Raised) : String := e.name ++ ": " ++ e.text

/-- The name, and the text after a colon if there is one. -/
def describe (e : Raised) : String := if e.text.isEmpty then e.name else e.report

def valueError (text : String) : Raised := ⟨"ValueError", text⟩

def indexError (text : String) : Raised := ⟨"IndexError", text⟩

def typeError (text : String) : Raised := ⟨"TypeError", text⟩

end Raised

end Exemplar
