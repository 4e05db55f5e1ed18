import DaprHosting.Layer.Basic
import DaprHosting.Provision
import DaprHosting.Release

/-!
# Failures and exit codes

Everything that ends a command without a result, with the message for the operator and the exit
code of the process. The codes are those of `sysexits`: they tell a caller whether to mend the
command line, the input or the configuration, to try again later, or to ask for access. Only a
program that stops on its own account has a code of its own.
-/

namespace DaprHosting

/-! ## 1. Exit codes -/

/-- The exit codes in use. -/
inductive ExitCode where
  | usage | dataErr | noInput | unavailable | software | ioErr | tempFail | protocol | noPerm
  | config | stopped
deriving DecidableEq, Repr

/-- The number of an exit code, from the convention that mail programs set; they have none for a
    program that stops. -/
def ExitCode.code : ExitCode → Nat
  | .usage => 64
  | .dataErr => 65
  | .noInput => 66
  | .unavailable => 69
  | .software => 70
  | .ioErr => 74
  | .tempFail => 75
  | .protocol => 76
  | .noPerm => 77
  | .config => 78
  | .stopped => 101

/-! ## 2. Failures -/

/-- Why a command failed. -/
inductive Failure where
  | provision (cause : Provision.Error)
  | client (cause : ClientError)
  | release (cause : Release.Error)
  | configuration (cause : Layer.Error)
  | logging (cause : String)
  /-- An input file cannot be read. -/
  | unreadable (path cause : String)
  /-- The text of an input file is no extension document. -/
  | document (text : String)
deriving Repr

/-- What is told of a failure. A cause speaks for itself; a bare text is introduced. -/
def Failure.message (w : Wording) : Failure → String
  | .provision e => e.message
  | .client e => e.message
  | .release e => e.message
  | .configuration e => e.message w
  | .logging cause => "failed to install tracing subscriber: " ++ cause
  | .unreadable path cause => "failed to read " ++ Text.quoted path ++ ": " ++ cause
  | .document text => "invalid extension document: " ++ w.noExtension text

/-! ## 3. From a failure to its code -/

/-- The exit code of a client error: a call that is not allowed is a matter of rights, one that
    comes too often can be tried again later. -/
def ClientError.exitCode : ClientError → ExitCode
  | .network _ => .unavailable
  | .unauthorized _ => .noPerm
  | .rateLimit => .tempFail
  | .api .. => .unavailable
  | .decode _ => .protocol
  | .invalidConfig _ => .config

/-- A failed creation exits as its client error does. -/
def Provision.CreationFault.exitCode : Provision.CreationFault → ExitCode
  | .client e => e.exitCode
  | .emptyResult => .protocol

/-- A client error decides the exit code wherever it came up. -/
def Provision.Error.exitCode : Provision.Error → ExitCode
  | .unsupportedService _ => .usage
  | .unsupportedBinding .. => .usage
  | .lookup _ _ cause => cause.exitCode
  | .serviceCreation _ _ cause => cause.exitCode
  | .componentCreation _ _ cause => cause.exitCode
  | .missingServiceId _ => .protocol
  | .missingComponentId _ => .protocol

/-- A terminal that breaks is a fault of input and output, all else one of usage. -/
def Release.Error.exitCode : Release.Error → ExitCode
  | .unsupportedScope _ => .usage
  | .prompt .notInteractive => .usage
  | .prompt (.terminal _) => .ioErr

/-- A file that is not there, a file that makes no sense, options that make no configuration and a
    setting of the wrong kind are told apart, and from all of them that the program stopped. -/
def Layer.Error.exitCode : Layer.Error → ExitCode
  | .io .. => .noInput
  | .parse _ => .config
  | .stopped _ => .stopped
  | .validation _ => .usage
  | .settings _ => .dataErr

/-- The exit code of a failure; one that a client error caused depends on that error alone. -/
def Failure.exitCode : Failure → ExitCode
  | .provision e => e.exitCode
  | .client e => e.exitCode
  | .release e => e.exitCode
  | .configuration e => e.exitCode
  | .logging _ => .software
  | .unreadable .. => .noInput
  | .document _ => .dataErr

/-- What is told of a failure on a line of its own, where nothing is logged yet. The words of a
    program that stops are no error that it tells. -/
def Failure.line (w : Wording) (f : Failure) : String :=
  if f.exitCode = .stopped then f.message w else "error: " ++ f.message w

end DaprHosting
