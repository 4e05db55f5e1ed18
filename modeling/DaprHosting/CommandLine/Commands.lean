import DaprHosting.CommandLine.Options
import DaprHosting.Layer.Load

/-!
# Commands

The three commands and their place in the groups of the command line.
-/

namespace DaprHosting.CommandLine

/-! ## 1. Commands -/

/-- A command with the options that the command line and the environment gave. -/
inductive Command where
  | install (given : Layered InstallLayer)
  | update (given : Layered UpdateLayer)
  | provision (given : Layered BindingLayer)

/-- The commands by name. -/
inductive CommandName where
  | install | update | provision
deriving DecidableEq, Repr

/-- Every command in its group. -/
def tree : Tree CommandName :=
  .group true
    [("binding", .group false [("provision", .command .provision)]),
     ("addon", .group false [("create", .command .install), ("update", .command .update)])]

/-- The command that a line and the environment give. -/
def read (environment : String → Option String) (words : List String) : Except Refusal Command := do
  match ← choose tree words with
  | (.install, ws) =>
    return .install (← readOptions (layeredOptions installOptions) environment ⟨none, {}⟩ ws)
  | (.update, ws) =>
    return .update (← readOptions (layeredOptions updateOptions) environment ⟨none, {}⟩ ws)
  | (.provision, ws) =>
    return .provision (← readOptions (layeredOptions bindingOptions) environment ⟨none, {}⟩ ws)

/-- The variables of the environment that any option looks at. -/
def variableNames : List String :=
  let namesOf {ρ : Type} (os : List (OptionSpec ρ)) := os.filterMap (·.variableName)
  (namesOf (layeredOptions installOptions) ++ namesOf (layeredOptions bindingOptions)).eraseDups

/-! ## 2. Configurations -/

/-- The configuration of a command. -/
inductive Config where
  | install (config : InstallConfig)
  | update (config : UpdateConfig)
  | provision (config : BindingConfig)

/-- The path of a command's configuration file. -/
def Command.configPath? : Command → Option String
  | .install given => given.config
  | .update given => given.config
  | .provision given => given.config

/-- The configuration of a command. -/
def Command.load (files : Files) : Command → Except Layer.Error Config
  | .install given => (Layer.install.load files given.config given.options).map .install
  | .update given => (Layer.update.load files given.config given.options).map .update
  | .provision given => (Layer.binding.load files given.config given.options).map .provision

/-- The log of a configuration. -/
def Config.logger : Config → Log.Logger
  | .install c => c.logger
  | .update c => c.logger
  | .provision c => c.logger

/-- The file that a configuration reads from: the installed extension, or the token. -/
def Config.inputPath? : Config → Option String
  | .install _ => none
  | .update c => some c.installed
  | .provision c =>
    match c.connection.token with
    | .file path => some path
    | .literal _ => none

end DaprHosting.CommandLine
