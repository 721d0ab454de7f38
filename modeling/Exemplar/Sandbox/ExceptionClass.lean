/-
  The classes of exceptions that are there without a declaration, each with the class that it
  extends.
-/

namespace Exemplar.ExceptionClass

/-- Each class after the one that it extends. -/
def parents : List (String × String) :=
  [("BaseException", "object"), ("BaseExceptionGroup", "BaseException"),
   ("Exception", "BaseException"), ("GeneratorExit", "BaseException"),
   ("KeyboardInterrupt", "BaseException"), ("SystemExit", "BaseException"),
   ("ExceptionGroup", "BaseExceptionGroup"), ("ArithmeticError", "Exception"),
   ("AssertionError", "Exception"), ("AttributeError", "Exception"), ("BufferError", "Exception"),
   ("EOFError", "Exception"), ("ImportError", "Exception"), ("LookupError", "Exception"),
   ("MemoryError", "Exception"), ("NameError", "Exception"), ("OSError", "Exception"),
   ("ReferenceError", "Exception"), ("RuntimeError", "Exception"),
   ("StopAsyncIteration", "Exception"), ("StopIteration", "Exception"),
   ("SyntaxError", "Exception"), ("SystemError", "Exception"), ("TypeError", "Exception"),
   ("ValueError", "Exception"), ("Warning", "Exception"),
   ("FloatingPointError", "ArithmeticError"), ("OverflowError", "ArithmeticError"),
   ("ZeroDivisionError", "ArithmeticError"), ("ModuleNotFoundError", "ImportError"),
   ("IndexError", "LookupError"), ("KeyError", "LookupError"),
   ("UnboundLocalError", "NameError"), ("BlockingIOError", "OSError"),
   ("ChildProcessError", "OSError"), ("ConnectionError", "OSError"), ("FileExistsError", "OSError"),
   ("FileNotFoundError", "OSError"), ("InterruptedError", "OSError"),
   ("IsADirectoryError", "OSError"), ("NotADirectoryError", "OSError"),
   ("PermissionError", "OSError"), ("ProcessLookupError", "OSError"), ("TimeoutError", "OSError"),
   ("BrokenPipeError", "ConnectionError"), ("ConnectionAbortedError", "ConnectionError"),
   ("ConnectionRefusedError", "ConnectionError"), ("ConnectionResetError", "ConnectionError"),
   ("NotImplementedError", "RuntimeError"), ("RecursionError", "RuntimeError"),
   ("IndentationError", "SyntaxError"), ("TabError", "IndentationError"),
   ("UnicodeError", "ValueError"), ("UnicodeDecodeError", "UnicodeError"),
   ("UnicodeEncodeError", "UnicodeError"), ("UnicodeTranslateError", "UnicodeError"),
   ("BytesWarning", "Warning"), ("DeprecationWarning", "Warning"), ("EncodingWarning", "Warning"),
   ("FutureWarning", "Warning"), ("ImportWarning", "Warning"),
   ("PendingDeprecationWarning", "Warning"), ("ResourceWarning", "Warning"),
   ("RuntimeWarning", "Warning"), ("SyntaxWarning", "Warning"), ("UnicodeWarning", "Warning"),
   ("UserWarning", "Warning")]

/-- Other names of `OSError`. -/
def aliases : List String := ["EnvironmentError", "IOError"]

/-- The class that a name stands for. -/
def ofName? (name : String) : Option String :=
  if aliases.contains name then some "OSError"
  else if (parents.lookup name).isSome then some name
  else none

/-- A class and those that it extends, in order, up to some count. -/
def lineageUpTo : Nat → String → List String
  | 0, _ => []
  | n + 1, name =>
    match parents.lookup name with
    | some parent => name :: lineageUpTo n parent
    | none => [name]

/-- A class and those that it extends, in order. -/
def lineage (name : String) : List String := lineageUpTo parents.length name

/-- Whether a class is another or extends it. -/
def extends? (name other : String) : Bool := (lineage name).contains other

/-- The class of an error of the operating system with a number. -/
def ofErrorNumber (n : Int) : String :=
  match n with
  | 11 | 115 | 114 => "BlockingIOError"
  | 10 => "ChildProcessError"
  | 32 | 108 => "BrokenPipeError"
  | 103 => "ConnectionAbortedError"
  | 111 => "ConnectionRefusedError"
  | 104 => "ConnectionResetError"
  | 17 => "FileExistsError"
  | 2 => "FileNotFoundError"
  | 4 => "InterruptedError"
  | 21 => "IsADirectoryError"
  | 20 => "NotADirectoryError"
  | 1 | 13 => "PermissionError"
  | 3 => "ProcessLookupError"
  | 110 => "TimeoutError"
  | _ => "OSError"

end Exemplar.ExceptionClass
