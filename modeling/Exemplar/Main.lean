import Exemplar.CommandLine.Execution
import Exemplar.Console
import Exemplar.Sandbox.Evaluation

/-
  The program on a command line: it reads the file that a command names, and writes what comes of
  the command.
-/

namespace Exemplar

/-- What is found under a path of the file system. -/
def entryOf (path : String) : IO (Option Entry) := do
  try
    return some (.file (← IO.FS.readBinFile path).toList)
  catch e =>
    match e with
    | .inappropriateType .. => return some .directory
    | _ => return none

/-- The tree in which all that is known is what a path leads to. -/
def treeAlong (path : String) : IO FileTree := do
  match ← entryOf path with
  | some e => return .along (.ofText path) e
  | none => return ⟨[]⟩

/-- The tree with the files that a command line names. -/
def treeFor (args : List String) : IO FileTree := do
  match CommandLine.Request.ofArgs args with
  | .command _ logFile asked =>
    let source ← match asked with
      | .command c => treeAlong c.path
      | _ => pure ⟨[]⟩
    let around (f : String) : String := (FilePath.mk (FilePath.ofText f).root
      (FilePath.ofText f).parts.dropLast).text
    let log ← match logFile with
      | some f => pure ((← treeAlong f).entries ++ (← treeAlong (around f)).entries)
      | none => pure []
    return ⟨source.entries ++ log⟩
  | _ => return ⟨[]⟩

/-- The variables of the environment that settings are read from. -/
def environment : IO Environment := do
  let names := [Environment.timeoutName, Environment.memoryLimitName, Environment.seedName]
  let found ← names.mapM fun n => do return (← IO.getEnv n).map fun v => (n, v)
  return found.filterMap id

/-- Carries out a command and answers how it ended. -/
def runProgram (args : List String) : IO UInt32 := do
  let out ← IO.getStdout
  let err ← IO.getStderr
  let surroundings : CommandLine.Surroundings :=
    { files := ← treeFor args, environment := ← environment, isTerminal := ← out.isTty }
  let seed ← IO.rand 0 0xffffffff
  match CommandLine.execute surroundings (Session.annotations seed) args with
  | .ok e =>
    out.putStr (Screen.text .stdout e.written)
    err.putStr (Screen.text .stderr e.written)
    return UInt32.ofNat e.code
  | .error e =>
    err.putStrLn e.describe
    return 1

end Exemplar

def main (args : List String) : IO UInt32 := Exemplar.runProgram args
