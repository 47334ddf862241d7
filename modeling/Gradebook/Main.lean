/-
# The program

The outer layer: files, environment variables and streams of the system.
-/

import Gradebook.Command.Outcome

open Gradebook

/-- The text of a file of the system. -/
def systemFileText (path : String) : IO (Except String String) := do
  try
    return .ok (← IO.FS.readFile path)
  catch e =>
    return .error (toString e)

/-- The surroundings of a running program. -/
def systemSurroundings : Surroundings IO where
  fileText := systemFileText
  lookUp name := IO.getEnv name

/-- Tells of a failure. -/
def reportFailure (failure : Failure) : IO UInt32 := do
  IO.eprintln ("application error: " ++ failure.message)
  return 1

/-- Runs a command. The program has no network of its own to listen at. -/
def runCommand (command : Command) : IO UInt32 := do
  match ← (command.perform systemSurroundings).run with
  | .ok (.printed text) =>
    IO.print text
    return 0
  | .ok (.listening address _) => reportFailure (.server ("cannot listen at " ++ address))
  | .error failure => reportFailure failure

def main (args : List String) : IO UInt32 := do
  match Invocation.read args with
  | .run command => runCommand command
  | .print text =>
    IO.print text
    return 0
  | .invalid =>
    IO.eprintln ("error: invalid arguments, try '" ++ Invocation.program ++ " --help'")
    return 2
