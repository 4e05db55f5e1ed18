import DaprHosting.CommandLine.Grammar
import DaprHosting.Layer.Binding
import DaprHosting.Layer.Install
import DaprHosting.Layer.Update

/-!
# The options of the commands

Each option with its names, its variable of the environment and the way its value is read.
-/

namespace DaprHosting.CommandLine

/-! ## 1. Kinds of value -/

variable {ρ : Type}

/-- A value stored as it stands. -/
def textOption (long : String) (set : ρ → String → ρ) : OptionSpec ρ where
  long := long
  store v l := .ok (set l v)

/-- A value of which only some texts are allowed. -/
def choiceOption {α : Type} (long : String) (read : String → Option α) (set : ρ → α → ρ) :
    OptionSpec ρ where
  long := long
  store v l :=
    match read v with
    | some a => .ok (set l a)
    | none => .error .invalidValue

/-- A value that is read from its text. -/
def readOption {α : Type} (long : String) (read : String → Option α) (set : ρ → α → ρ) :
    OptionSpec ρ where
  long := long
  store v l :=
    match read v with
    | some a => .ok (set l a)
    | none => .error .unreadableValue

/-- A timeout; its reader is the one that may stop the program. -/
def timeoutOption (long : String) (set : ρ → RequestTimeout → ρ) : OptionSpec ρ where
  long := long
  store v l :=
    match RequestTimeout.read v with
    | .ok t => .ok (set l t)
    | .error .stopped => .error .stopped
    | .error _ => .error .unreadableValue

/-- A path: any text but the empty one. -/
def path? (v : String) : Option String := if v = "" then none else some v

/-- A truth value in its one spelling. -/
def truth? (v : String) : Option Bool :=
  if v = "true" then some true else if v = "false" then some false else none

/-- The same option with a variable of the environment. -/
def OptionSpec.orVariable (o : OptionSpec ρ) (name : String) : OptionSpec ρ :=
  { o with variableName := some name }

/-- The same option with a letter. -/
def OptionSpec.orLetter (o : OptionSpec ρ) (c : Char) : OptionSpec ρ := { o with short := some c }

/-! ## 2. Groups of options -/

/-- The options of the log. -/
def loggingOptions : List (OptionSpec LoggingLayer) :=
  [(choiceOption "log-format" Choice.logFormat.ofName? fun l a => { l with format := some a })
     |>.orVariable "DAPRCTL_LOG_FORMAT",
   (choiceOption "log-level" Choice.logLevel.ofName? fun l a => { l with level := some a })
     |>.orVariable "DAPRCTL_LOG_LEVEL"]

/-- A setting, as often as there are settings. -/
def settingOption (long : String) (add : SettingsLayer → Setting → SettingsLayer) :
    OptionSpec SettingsLayer :=
  { readOption long (fun v => (Setting.ofAssignment v).toOption) add with repeatable := true }

/-- The options that `addon create` and `addon update` share. -/
def settingsOptions : List (OptionSpec SettingsLayer) :=
  [choiceOption "auto-upgrade-minor-version" truth?
     fun l a => { l with autoUpgradeMinorVersion := some a },
   textOption "release-train" fun l a => { l with releaseTrain := some a },
   textOption "version" fun l a => { l with version := some a },
   settingOption "configuration-settings" fun l a => { l with settings := l.settings ++ [a] },
   settingOption "configuration-protected-settings"
     fun l a => { l with protectedSettings := l.protectedSettings ++ [a] }]

/-- The options of a connection, each with its environment variable. -/
def connectionOptions : List (OptionSpec ConnectionLayer) :=
  [(readOption "subscription-id" Uuid.read? fun l a => { l with subscriptionId := some a })
     |>.orVariable "AZURE_SUBSCRIPTION_ID",
   (readOption "arm-endpoint" Url.read? fun l a => { l with endpoint := some a })
     |>.orVariable "DAPRCTL_ARM_ENDPOINT",
   (readOption "arm-token" (fun v => (Token.read v).toOption) fun l a => { l with token := some a })
     |>.orVariable "DAPRCTL_ARM_TOKEN",
   (textOption "api-version" fun l a => { l with apiVersion := some a })
     |>.orVariable "DAPRCTL_API_VERSION",
   (timeoutOption "request-timeout" fun l a => { l with timeout := some a })
     |>.orVariable "DAPRCTL_REQUEST_TIMEOUT"]

/-! ## 3. Commands -/

/-- The options of `addon create`. -/
def installOptions : List (OptionSpec InstallLayer) :=
  [textOption "name" fun l a => { l with name := some a },
   textOption "release-namespace" fun l a => { l with releaseNamespace := some a },
   textOption "cluster-type" fun l a => { l with clusterType := some a },
   choiceOption "scope" Choice.scope.ofName? fun l a => { l with scope := some a },
   textOption "extension-type" fun l a => { l with extensionType := some a }] ++
  settingsOptions.map (.within (·.settings) fun l s => { l with settings := s }) ++
  loggingOptions.map (.within (·.logging) fun l g => { l with logging := g })

/-- The options of `addon update`. -/
def updateOptions : List (OptionSpec UpdateLayer) :=
  [choiceOption "original" path? fun l a => { l with installed := some a }] ++
  settingsOptions.map (.within (·.settings) fun l s => { l with settings := s }) ++
  loggingOptions.map (.within (·.logging) fun l g => { l with logging := g })

/-- The options of `binding provision`. -/
def bindingOptions : List (OptionSpec BindingLayer) :=
  [choiceOption "component-type" Choice.component.ofName?
     fun l a => { l with component := some a },
   choiceOption "service-type" Choice.service.ofName? fun l a => { l with service := some a },
   ((textOption "resource-group" fun l a => { l with resourceGroup := some a })
     |>.orVariable "DAPRCTL_RESOURCE_GROUP").orLetter 'g',
   (textOption "environment" fun l a => { l with environment := some a })
     |>.orVariable "DAPRCTL_ENVIRONMENT",
   (textOption "location" fun l a => { l with location := some a }) |>.orLetter 'l'] ++
  connectionOptions.map (.within (·.connection) fun l c => { l with connection := c }) ++
  loggingOptions.map (.within (·.logging) fun l g => { l with logging := g })

/-! ## 4. The configuration file -/

/-- The options of a command, and the path of its configuration file. -/
structure Layered (ρ : Type) where
  config : Option String := none
  options : ρ

/-- The options of a command with the one that names its configuration file. -/
def layeredOptions (options : List (OptionSpec ρ)) : List (OptionSpec (Layered ρ)) :=
  ((choiceOption "config" path? fun l a => { l with config := some a })
    |>.orVariable "DAPRCTL_CONFIG") ::
  options.map (.within (·.options) fun l o => { l with options := o })

end DaprHosting.CommandLine
