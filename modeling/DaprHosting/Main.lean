import DaprHosting.CommandLine.Help
import DaprHosting.Log.Written
import DaprHosting.Run

/-!
# The program

The outer layer: it looks up the environment and reads the files that the command names, hands
everything to `DaprHosting.run`, and writes what comes back. There is no operator to be asked and
no network of its own.
-/

namespace DaprHosting.Program

open CommandLine (Command)

/-- Why a file could not be read. -/
def fileError : IO.Error → FileError
  | .noFileOrDirectory .. => .missing
  | .inappropriateType _ code cause =>
    if code = 21 then .isDirectory else if code = 20 then .notDirectory else .other cause
  | e => .other (toString e)

/-- What a path reads as. -/
def readPath (path : String) : IO (String × Except FileError String) := do
  try
    let bytes ← IO.FS.readBinFile path
    return (path, textOf bytes.toList)
  catch e =>
    return (path, .error (fileError e))

/-- What the paths read as. -/
def readPaths (paths : List String) : IO Files := do
  return Files.ofReads (← paths.mapM readPath)

/-- The files that a command needs: that of its configuration, and the one this names. -/
def readNeeded (command : Command) : IO Files := do
  let config := command.configPath?.toList
  let files ← readPaths config
  match command.load files with
  | .ok c => readPaths (config ++ c.inputPath?.toList)
  | .error _ => return files

/-- The environment, as far as any option looks at it. -/
def readEnvironment : IO (String → Option String) := do
  let values ← CommandLine.variableNames.mapM fun name => do return (name, ← IO.getEnv name)
  return fun name => (values.find? fun v => v.1 == name).bind (·.2)

/-- Write what a run leaves. -/
def write (report : Report) : IO Unit := do
  match report.plainLine? .plain with
  | some line => IO.eprintln line
  | none => pure ()
  match report.logger with
  | some logger => (report.events .plain).forM fun e => IO.eprintln (logger.line e)
  | none => pure ()
  IO.print report.output

end DaprHosting.Program

open DaprHosting in

/-- Read the command line, run the command and return its exit code. -/
def main (args : List String) : IO UInt32 := do
  match CommandLine.read (← Program.readEnvironment) args with
  | .error refusal =>
    IO.print refusal.output
    IO.eprint refusal.complaint
    return UInt32.ofNat refusal.exitCode
  | .ok command =>
    let files ← Program.readNeeded command
    let (report, _) := run .nobody files .unreachable ⟨(), default⟩ command
    Program.write report
    return UInt32.ofNat report.exitCode
