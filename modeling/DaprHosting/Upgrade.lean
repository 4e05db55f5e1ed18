import DaprHosting.Action
import DaprHosting.Extension
import DaprHosting.Settings
import DaprHosting.Version.Reader

/-!
# Changing an installed extension

The patch for an installed extension. The hook that applies the resource definitions is turned off
when the version goes back and on in every other case, since an earlier step back may have left it
off.
-/

namespace DaprHosting

/-- The changes that are asked for. -/
structure UpdateRequest where
  autoUpgradeMinorVersion : Option Bool := none
  releaseTrain : Option String := none
  version : Option String := none
  settings : Option Settings := none
  protectedSettings : Option (OrderedMap String) := none

namespace Patch

/-- Whether the versions, where both are known, go back. -/
def goesBack (requested installed : Option String) : Bool :=
  match requested, installed with
  | some r, some i => Version.isDowngrade r i
  | _, _ => false

/-- The settings asked for, and the hook. -/
def settingsFor (request : UpdateRequest) (installed : Option String) : Settings :=
  { request.settings.getD {} with
    applyCrdsHook := some (!goesBack request.version installed) }

/-- The settings as they are submitted. An empty map would wipe those that are installed: in its
    place goes what was asked for as it is. -/
def submittedSettings (request : UpdateRequest) (installed : Option String) :
    Option (OrderedMap String) :=
  if (settingsFor request installed).isEmpty then request.settings.map Settings.toMap
  else some (settingsFor request installed).toMap

/-- The patch for an extension of the installed version. -/
def ofRequest (request : UpdateRequest) (installed : Extension) : Patch where
  autoUpgradeMinorVersion := request.autoUpgradeMinorVersion
  releaseTrain := request.releaseTrain
  version := request.version
  settings := submittedSettings request installed.version
  protectedSettings := request.protectedSettings

/-- Build the patch; a step back is logged. -/
def build {σ ε : Type} (request : UpdateRequest) (installed : Extension) : Action σ ε Patch := do
  if goesBack request.version installed.version then
    Action.debug ("downgrade detected from " ++ installed.version.getD "" ++ " to " ++
      request.version.getD "" ++ ", setting " ++ Settings.applyCrdsHookKey ++ " to false")
  pure (ofRequest request installed)

end Patch

end DaprHosting
