import DaprHosting.Release
import DaprHosting.Text.Ascii

/-!
# Installing the extension

The extension that is submitted for a new installation: the release it takes over, and the
settings, some of them forced. On a release that is there already the high availability mode is
turned off, since it cannot be added later; on a managed cluster the cluster type is written in
its one spelling.
-/

namespace DaprHosting

/-! ## 1. Requests and results -/

/-- Everything that an installation is asked with. -/
structure InstallRequest where
  extensionType : String
  releaseName : String
  releaseNamespace : Option String
  clusterType : String
  scope : ScopeKind
  autoUpgradeMinorVersion : Option Bool
  releaseTrain : Option String
  version : Option String
  settings : Settings
  protectedSettings : OrderedMap String

/-- The extension to submit and the release name it goes under. -/
structure Installation where
  releaseName : String
  extension : Extension
deriving DecidableEq

instance : Inhabited Installation := ⟨⟨"", {}⟩⟩

/-- The document that `addon create` prints. -/
def Installation.toJson (i : Installation) : Json :=
  .object [("releaseName", .string i.releaseName), ("extension", i.extension.toJson)]

namespace Installation

/-- The type of the extension when none is asked for. -/
def defaultExtensionType : String := "Microsoft.Dapr"

/-- The release train when none is asked for. -/
def stableTrain : String := "stable"

/-- The spelling of the cluster type of a managed cluster. -/
def managedClusters : String := "managedclusters"

/-! ## 2. Forced settings -/

/-- The settings for a release: high availability is turned off when it is installed already. -/
def forRelease (release : Release) (s : Settings) : Settings :=
  if release.alreadyInstalled then { s with haEnabled := some false } else s

/-- The settings for a type of cluster: no type, and that of a managed cluster in any case of its
    letters, are written as that of a managed cluster. No character outside ASCII has a letter of
    the type as its lower case. -/
def forClusterType (clusterType : String) (s : Settings) : Settings :=
  if clusterType = "" ∨ Text.lowerAscii clusterType = managedClusters then
    { s with clusterType := some managedClusters }
  else s

/-- The settings that are submitted. -/
def submitted (request : InstallRequest) (release : Release) : Settings :=
  forClusterType request.clusterType
    (forRelease release (Release.decide request.settings).2)

/-! ## 3. The whole -/

/-- The extension for a request whose release is known. -/
def ofRelease (request : InstallRequest) (release : Release) : Installation where
  releaseName := release.name
  extension :=
    { extensionType := request.extensionType
      autoUpgradeMinorVersion := request.autoUpgradeMinorVersion
      releaseTrain := some (request.releaseTrain.getD stableTrain)
      version := request.version
      scope := { cluster := some ⟨release.inNamespace⟩ }
      settings := (submitted request release).toMap
      protectedSettings := request.protectedSettings }

/-- Build what is submitted. A namespace scope is refused before anything is asked. -/
def build {σ : Type} (operator : Operator σ) (request : InstallRequest) :
    Action σ Release.Error Installation := do
  if request.scope = .namespaced then Action.fail (.unsupportedScope request.scope)
  else
    let release ← Release.resolve operator request.releaseName request.releaseNamespace
      request.settings
    if release.alreadyInstalled && request.settings.haEnabled == some true then
      Action.warn ("Dapr is already installed, so HA mode will be disabled (" ++
        Settings.haEnabledKey ++ " = false) for this extension")
    Action.info "prepared Dapr extension"
      [("release", .text release.name),
       ("namespace", .text (release.inNamespace.getD "")),
       ("already_installed", .flag release.alreadyInstalled)]
    pure (ofRelease request release)

end Installation

end DaprHosting
