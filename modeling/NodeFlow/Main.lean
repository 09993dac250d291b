import NodeFlow.CommandLine

/-!
# The program

Connects the command line to the files and the environment.
-/

namespace NodeFlow.Program

/-- Reads what a path leads to, as far as reading tells. -/
def lookAt (path : String) : IO Target := do
  try
    return .file (← IO.FS.readBinFile path)
  catch
    | .noFileOrDirectory .. => return .vacant
    | .invalidArgument .. => return .nowhere .nameTooLong
    | .inappropriateType _ code _ => return if code = 21 then .directory else .nowhere .notDirectory
    | _ => return .directory

/-- Reads the settings of the environment. -/
def readSettings : IO Settings := do
  let level ← IO.getEnv "LOGICGRAPH_LOG_LEVEL"
  let maxLen ← IO.getEnv "LOGICGRAPH_LOG_MAX_LEN"
  let maxSteps ← IO.getEnv "LOGICGRAPH_MAX_EXEC_STEPS"
  return Settings.ofEnvironment fun name =>
    if name == "LOGICGRAPH_LOG_LEVEL" then level
    else if name == "LOGICGRAPH_LOG_MAX_LEN" then maxLen
    else if name == "LOGICGRAPH_MAX_EXEC_STEPS" then maxSteps
    else none

/-- Prints and writes what a command asks for. -/
def deliver (outcome : Outcome) : IO UInt32 := do
  match outcome.written with
  | some (path, text) =>
    try
      IO.FS.writeFile path text
    catch
      | .noFileOrDirectory .. =>
        let fault := Command.writeFault? path (.nowhere .missing)
        IO.eprint (Outcome.reported "" (fault.getD "")).stderr
        return 1
      | error =>
        IO.eprintln error
        return 1
  | none => pure ()
  IO.print outcome.stdout
  IO.eprint outcome.stderr
  match outcome.crash with
  | some crash => IO.eprintln crash.message
  | none => pure ()
  return UInt32.ofNat outcome.exitCode

end NodeFlow.Program

open NodeFlow Program in
/-- Carries out the command line. -/
def main (arguments : List String) : IO UInt32 := do
  let settings ← readSettings
  let path := ((Command.read arguments).toOption.bind Command.path?).getD ""
  let given ← lookAt path
  let plain ← lookAt (Path.plain path)
  let look := fun asked => if asked == path then given else plain
  deliver (Command.perform settings look ⟨0⟩ arguments)
