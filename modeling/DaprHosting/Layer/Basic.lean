import DaprHosting.Settings
import DaprHosting.Text.Quoted
import DaprHosting.Wording

/-!
# Layers of configuration

A command takes its options from layers: defaults, a file, the environment and the command line.
Every option of a layer may be missing. A layer is laid over another field by field: a single value
over a single value wins when it is there, and lists of settings follow one another.
-/

namespace DaprHosting.Layer

/-! ## 1. One layer over another -/

/-- The upper value when there is one, and the lower value otherwise. -/
def overlay {α : Type} (base top : Option α) : Option α :=
  match top with
  | some a => some a
  | none => base

/-- The upper list when it holds anything, and the lower list otherwise. -/
def overlayList {α : Type} (base top : List α) : List α := if top.isEmpty then base else top

/-- The elements of the lower list and then those of the upper. -/
def follow {α : Type} (base top : List α) : List α := base ++ top

/-! ## 2. Errors -/

/-- What is wrong with the text of a configuration file. -/
inductive Complaint where
  /-- The text is no TOML. -/
  | noToml (text : String)
  /-- The option of a key does not take the value. -/
  | mismatch (key : String) (value : Toml)
  /-- A number cannot be read. -/
  | number (digits : String)
  /-- The option takes such values, but not this one. -/
  | told (text : String)
deriving Repr

/-- The complaint in words. -/
def Complaint.message (w : Wording) : Complaint → String
  | .noToml text => w.noToml text
  | .mismatch key value => w.mismatch key value
  | .number digits => w.number digits
  | .told text => text

/-- Why a configuration could not be loaded. -/
inductive Error where
  /-- The file cannot be read. -/
  | io (path cause : String)
  /-- The text of the file is at fault. -/
  | parse (complaint : Complaint)
  /-- The program stopped while it read the file, with these words. -/
  | stopped (words : String)
  /-- The options do not make a configuration. -/
  | validation (text : String)
  | settings (fault : Settings.Fault)
deriving Repr

/-- What is told of a configuration that cannot be used. -/
def Error.message (w : Wording) : Error → String
  | .io path cause => "failed to load configuration file " ++ Text.quoted path ++ ": " ++ cause
  | .parse complaint => "failed to parse TOML configuration: " ++ complaint.message w
  | .stopped words => words
  | .validation text => text
  | .settings fault => fault.message

/-- A required option is in no layer. -/
def Error.missing (option : String) : Error :=
  .validation ("missing required option '--" ++ option ++ "'")

/-- The value of a required option. -/
def require {α : Type} (option : String) : Option α → Except Error α
  | some a => .ok a
  | none => .error (.missing option)

end DaprHosting.Layer
