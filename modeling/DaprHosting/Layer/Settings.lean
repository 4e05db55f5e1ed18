import DaprHosting.Layer.Basic
import DaprHosting.Layer.Decode

/-!
# The layer of extension settings

What `addon create` and `addon update` have in common. The settings of a file and those of the
command line follow one another, so a key given in both keeps its first place and its last value.
-/

namespace DaprHosting

/-- Options of an extension. -/
structure SettingsLayer where
  autoUpgradeMinorVersion : Option Bool := none
  releaseTrain : Option String := none
  version : Option String := none
  settings : List Setting := []
  protectedSettings : List Setting := []
deriving DecidableEq

namespace SettingsLayer

open Layer

/-- Each option is that of `top` where it has one, else that of `base`. -/
def overlay (base top : SettingsLayer) : SettingsLayer where
  autoUpgradeMinorVersion := Layer.overlay base.autoUpgradeMinorVersion top.autoUpgradeMinorVersion
  releaseTrain := Layer.overlay base.releaseTrain top.releaseTrain
  version := Layer.overlay base.version top.version
  settings := follow base.settings top.settings
  protectedSettings := follow base.protectedSettings top.protectedSettings

/-- The options in a file. -/
def fields : List (FileOption SettingsLayer) :=
  [.of "auto-upgrade-minor-version" flag
     fun l a => { l with autoUpgradeMinorVersion := some a },
   .of "release-train" text fun l a => { l with releaseTrain := some a },
   .of "version" text fun l a => { l with version := some a },
   .of "configuration-settings" Layer.settings fun l a => { l with settings := a },
   .of "configuration-protected-settings" Layer.settings
     fun l a => { l with protectedSettings := a }]

/-- The map of settings. -/
def mapOf (ss : List Setting) : OrderedMap String := OrderedMap.ofList (ss.map Setting.toPair)

/-- The settings, none when none was given at all. Only the last value of a flag is judged. -/
def resolveSettings (l : SettingsLayer) : Except Error (Option Settings) :=
  if l.settings.isEmpty then .ok none
  else
    match Settings.ofMap (mapOf l.settings) with
    | .ok s => .ok (some s)
    | .error f => .error (.settings f)

/-- The protected settings, none when none was given at all. -/
def resolveProtected (l : SettingsLayer) : Option (OrderedMap String) :=
  if l.protectedSettings.isEmpty then none else some (mapOf l.protectedSettings)

end SettingsLayer

end DaprHosting
