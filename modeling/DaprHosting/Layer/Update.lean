import DaprHosting.Layer.Logging
import DaprHosting.Layer.Settings
import DaprHosting.Upgrade

/-!
# The layer of `addon update`
-/

namespace DaprHosting

/-- Options of a change to an installed extension. -/
structure UpdateLayer where
  /-- The file with the installed extension. -/
  installed : Option String := none
  settings : SettingsLayer := {}
  logging : LoggingLayer := {}
deriving DecidableEq

/-- The configuration of a change. -/
structure UpdateConfig where
  installed : String
  request : UpdateRequest
  logger : Log.Logger

namespace UpdateLayer

open Layer

/-- Each option is that of `top` where it has one, else that of `base`. -/
def overlay (base top : UpdateLayer) : UpdateLayer where
  installed := Layer.overlay base.installed top.installed
  settings := base.settings.overlay top.settings
  logging := base.logging.overlay top.logging

/-- The options in a file. -/
def fields : List (FileOption UpdateLayer) :=
  [.of "original" text fun l a => { l with installed := some a }]

/-- The layer of a file. -/
def ofEntries (entries : List (String × Toml)) : Except Error UpdateLayer := do
  let own ← storeOwn fields {} entries
  let settings ← storeAll SettingsLayer.fields {} entries
  let logging ← storeAll LoggingLayer.fields {} entries
  return { own with settings := settings, logging := logging }

/-- The configuration of all layers together. -/
def resolve (l : UpdateLayer) : Except Error UpdateConfig := do
  let settings ← l.settings.resolveSettings
  let installed ← require "original" l.installed
  return {
    installed := installed
    request :=
      { autoUpgradeMinorVersion := l.settings.autoUpgradeMinorVersion
        releaseTrain := l.settings.releaseTrain
        version := l.settings.version
        settings := settings
        protectedSettings := l.settings.resolveProtected }
    logger := l.logging.resolve }

end UpdateLayer

end DaprHosting
