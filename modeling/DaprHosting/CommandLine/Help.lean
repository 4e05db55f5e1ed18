import DaprHosting.CommandLine.Commands

/-!
# Help and version

What is written when help or the version is asked for.
-/

namespace DaprHosting.CommandLine

/-- The name of the program. -/
def programName : String := "daprctl"

/-- Its version. -/
def programVersion : String := "0.1.0"

/-- A short account of the commands. -/
def help : String :=
  "Provision Dapr bound services and configure the Dapr cluster extension\n\n" ++
  "Usage: daprctl <COMMAND>\n\nCommands:\n" ++
  "  binding provision  Ensure a managed service and a Dapr component bound to it exist\n" ++
  "  addon create       Build the extension to create, detecting an existing Dapr install\n" ++
  "  addon update       Build the patch for an installed extension\n"

/-- What goes to standard output when a line is not carried out. -/
def Refusal.output : Refusal → String
  | .displayHelp => help
  | .displayVersion => programName ++ " " ++ programVersion ++ "\n"
  | _ => ""

/-- What goes to standard error when a line is not carried out. -/
def Refusal.complaint : Refusal → String
  | .displayHelp => ""
  | .displayVersion => ""
  | .missingCommand => help
  | .unknownCommand => "error: unrecognized subcommand\n"
  | .unknownArgument => "error: unexpected argument found\n"
  | .invalidValue => "error: invalid value for an option\n"
  | .unreadableValue => "error: invalid value for an option\n"
  | .repeated => "error: an option cannot be used multiple times\n"
  | .needlessValue => "error: unexpected value for a flag\n"
  | .stopped => RequestTimeout.Fault.message .stopped ++ "\n"

end DaprHosting.CommandLine
