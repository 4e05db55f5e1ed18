import DaprHosting.Installation
import DaprHosting.Layer.Logging
import DaprHosting.Layer.Settings

/-!
# The layer of `addon create`
-/

namespace DaprHosting

/-- Options of an installation. -/
structure InstallLayer where
  name : Option String := none
  releaseNamespace : Option String := none
  clusterType : Option String := none
  scope : Option ScopeKind := none
  extensionType : Option String := none
  settings : SettingsLayer := {}
  logging : LoggingLayer := {}
deriving DecidableEq

/-- The configuration of an installation. -/
structure InstallConfig where
  request : InstallRequest
  logger : Log.Logger

namespace InstallLayer

open Layer

/-- Each option is that of `top` where it has one, else that of `base`. -/
def overlay (base top : InstallLayer) : InstallLayer where
  name := Layer.overlay base.name top.name
  releaseNamespace := Layer.overlay base.releaseNamespace top.releaseNamespace
  clusterType := Layer.overlay base.clusterType top.clusterType
  scope := Layer.overlay base.scope top.scope
  extensionType := Layer.overlay base.extensionType top.extensionType
  settings := base.settings.overlay top.settings
  logging := base.logging.overlay top.logging

/-- The options in a file. -/
def fields : List (FileOption InstallLayer) :=
  [.of "name" text fun l a => { l with name := some a },
   .of "release-namespace" text fun l a => { l with releaseNamespace := some a },
   .of "cluster-type" text fun l a => { l with clusterType := some a },
   .of "scope" (ownChoice .scope) fun l a => { l with scope := some a },
   .of "extension-type" text fun l a => { l with extensionType := some a }]

/-- The layer of a file: the command's own options, the settings, the options of logging. -/
def ofEntries (entries : List (String × Toml)) : Except Error InstallLayer := do
  let own ← storeOwn fields {} entries
  let settings ← storeAll SettingsLayer.fields {} entries
  let logging ← storeAll LoggingLayer.fields {} entries
  return { own with settings := settings, logging := logging }

/-- The configuration of all layers together; an invalid flag is reported before a missing name. -/
def resolve (l : InstallLayer) : Except Error InstallConfig := do
  let settings ← l.settings.resolveSettings
  let name ← require "name" l.name
  return {
    request :=
      { extensionType := l.extensionType.getD Installation.defaultExtensionType
        releaseName := name
        releaseNamespace := l.releaseNamespace
        clusterType := l.clusterType.getD ""
        scope := l.scope.getD .cluster
        autoUpgradeMinorVersion := l.settings.autoUpgradeMinorVersion
        releaseTrain := l.settings.releaseTrain
        version := l.settings.version
        settings := settings.getD {}
        protectedSettings := l.settings.resolveProtected.getD .empty }
    logger := l.logging.resolve }

end InstallLayer

end DaprHosting
