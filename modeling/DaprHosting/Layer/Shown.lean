import DaprHosting.Layer.Binding
import DaprHosting.Layer.Install
import DaprHosting.Layer.Update
import DaprHosting.Log.Shown

/-!
# Configurations as they are shown

What a command is about to work with, in every part, but for its secrets: protected settings are
shown by their keys, and a token is shown by the path that it is read from or not at all.
-/

namespace DaprHosting

open Log (Shown)

/-! ## 1. Durations -/

namespace Duration

/-- A number of units and a fraction of so many digits, without the zeros at its end. -/
def fractional (whole fraction digits : Nat) (unit : String) : String :=
  let padded := (Text.decimal fraction).leftpad digits '0'
  let kept := (padded.reverse.dropWhile (· = '0')).reverse
  String.ofList (Text.decimal whole ++ if kept = [] then [] else '.' :: kept) ++ unit

/-- The duration in the greatest unit of which it holds one. -/
def shownText (d : Duration) : String :=
  if 0 < d.seconds then fractional d.seconds d.nanos 9 "s"
  else if 1000000 ≤ d.nanos then fractional (d.nanos / 1000000) (d.nanos % 1000000) 6 "ms"
  else if 1000 ≤ d.nanos then fractional (d.nanos / 1000) (d.nanos % 1000) 3 "µs"
  else fractional d.nanos 0 0 "ns"

example : [shownText ⟨30, 0⟩, shownText ⟨1, 500000000⟩, shownText ⟨0, 2050⟩] =
    ["30s", "1.5s", "2.05µs"] := by decide +kernel

end Duration

/-- What is shown of a deadline. -/
def RequestTimeout.shown (t : RequestTimeout) : Shown :=
  .wrapped "RequestTimeout" (.word t.duration.shownText)

/-! ## 2. URLs -/

namespace Url

/-- What is shown of characters. -/
def charsShown (cs : List Char) : Shown := .text (String.ofList cs)

/-- An address of eight groups; one that stands for four bytes shows them. -/
def groupsShown (gs : List Nat) : List Char :=
  match gs with
  | [0, 0, 0, 0, 0, 65535, high, low] =>
    "::ffff:".toList ++ fourBytesChars (high * 65536 + low)
  | gs => eightGroupsChars gs

/-- What is shown of a host: an address as such, and a domain in quotes. -/
def hostShown (scheme host : List Char) : Shown :=
  match host with
  | '[' :: rest =>
    .wrapped "Ipv6" (.word (String.ofList
      (match eightGroups? rest.dropLast with
        | some gs => groupsShown gs
        | none => rest.dropLast)))
  | host =>
    if isSpecial scheme && endsInNumber host then
      .wrapped "Ipv4" (.word (String.ofList host))
    else .wrapped "Domain" (charsShown host)

/-- What is shown of a URL: its parts, one by one. -/
def shown (u : Url) : Shown :=
  let userinfo := Text.cutAt ':' ((u.authority.map Authority.userinfo).getD [])
  let host := (u.authority.map Authority.host).filter (· ≠ [])
  .record "Url"
    [("scheme", charsShown u.scheme),
     ("cannot_be_a_base", .flag (!u.isBase)),
     ("username", charsShown userinfo.1),
     ("password", .optional charsShown userinfo.2),
     ("host", .optional (hostShown u.scheme) host),
     ("port", .optional (fun n => .word (toString n)) (u.authority.bind Authority.portNumber)),
     ("path", charsShown u.path.toChars),
     ("query", .optional charsShown u.query),
     ("fragment", .optional charsShown u.fragment)]

end Url

/-! ## 3. Parts of a configuration -/

/-- What is shown of a logger. -/
def Log.Logger.shown (logger : Log.Logger) : Shown :=
  .record "Logger" [("format", .choice logger.format.name), ("level", .choice logger.level.name)]

/-- What is shown of a token: where it comes from. -/
def Token.shown : Token → Shown
  | .literal secret => .wrapped "AuthToken" (.wrapped "Literal" (.secret secret))
  | .file path => .wrapped "AuthToken" (.wrapped "File" (.text path))

/-- What is shown of a connection. -/
def Connection.shown (c : Connection) : Shown :=
  .record "ArmConfig"
    [("subscription_id", .word c.subscriptionId.toText),
     ("arm_endpoint", c.endpoint.shown),
     ("arm_token", c.token.shown),
     ("api_version", .text c.apiVersion),
     ("request_timeout", c.timeout.shown)]

/-- What is shown of settings. -/
def Settings.shown (s : Settings) : Shown :=
  .record "ConfigurationSettings"
    [("cluster_type", .optional .text s.clusterType),
     ("ha_enabled", .optional .flag s.haEnabled),
     ("skip_existing_check", .optional .flag s.skipExistingCheck),
     ("existing_release_name", .optional .text s.existingReleaseName),
     ("existing_release_namespace", .optional .text s.existingReleaseNamespace),
     ("apply_crds_hook", .optional .flag s.applyCrdsHook),
     ("extra", .ofMap .text s.extra)]

/-- What is shown of protected settings: their keys. -/
def protectedShown (m : OrderedMap String) : Shown :=
  .wrapped "ProtectedSettings" (.ofMap .secret m)

/-- What is shown of the request for an installation. -/
def InstallRequest.shown (r : InstallRequest) : Shown :=
  .record "AddonInstallationRequest"
    [("extension_type", .text r.extensionType),
     ("release_name", .text r.releaseName),
     ("release_namespace", .optional .text r.releaseNamespace),
     ("cluster_type", .text r.clusterType),
     ("scope", .choice r.scope.name),
     ("auto_upgrade_minor_version", .optional .flag r.autoUpgradeMinorVersion),
     ("release_train", .optional .text r.releaseTrain),
     ("version", .optional .text r.version),
     ("configuration_settings", r.settings.shown),
     ("configuration_protected_settings", protectedShown r.protectedSettings)]

/-- What is shown of the request for a change. -/
def UpdateRequest.shown (r : UpdateRequest) : Shown :=
  .record "AddonUpdateRequest"
    [("auto_upgrade_minor_version", .optional .flag r.autoUpgradeMinorVersion),
     ("release_train", .optional .text r.releaseTrain),
     ("version", .optional .text r.version),
     ("configuration_settings", .optional Settings.shown r.settings),
     ("configuration_protected_settings", .optional protectedShown r.protectedSettings)]

/-! ## 4. Configurations -/

/-- What is shown of the configuration of `addon create`. -/
def InstallConfig.shown (c : InstallConfig) : Shown :=
  .record "AddonCreateConfig" [("request", c.request.shown), ("logger", c.logger.shown)]

/-- What is shown of the configuration of `addon update`. -/
def UpdateConfig.shown (c : UpdateConfig) : Shown :=
  .record "AddonUpdateConfig"
    [("original", .text c.installed), ("request", c.request.shown), ("logger", c.logger.shown)]

/-- What is shown of the configuration of `binding provision`. -/
def BindingConfig.shown (c : BindingConfig) : Shown :=
  .record "BindingConfig"
    [("component_type", .choice c.component.name),
     ("service_type", .choice c.service.name),
     ("resource_group", .text c.resourceGroup),
     ("environment", .text c.environment),
     ("location", .optional .text c.location),
     ("arm", c.connection.shown),
     ("logger", c.logger.shown)]

end DaprHosting
