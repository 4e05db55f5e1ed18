import DaprHosting.Json.Fields

/-!
# Extension documents

A cluster extension as it is submitted, or read back from the extension manager, and the patch for
an installed one. Every field of an extension is written, `null` where it has no value; a field of
a patch that is not set is left out, since it leaves the installed value as it is.
-/

namespace DaprHosting

/-! ## 1. Scopes -/

/-- The scope that is asked for. -/
inductive ScopeKind where
  | cluster | namespaced
deriving DecidableEq, Repr, Inhabited

namespace ScopeKind

/-- Both kinds of scope. -/
def all : List ScopeKind := [.cluster, .namespaced]

/-- The word for a scope. -/
def name : ScopeKind → String
  | .cluster => "cluster"
  | .namespaced => "namespace"

end ScopeKind

/-- The whole cluster, with the namespace of the release. -/
structure ClusterScope where
  releaseNamespace : Option String := none
deriving DecidableEq, Repr

/-- One namespace. -/
structure NamespaceScope where
  targetNamespace : Option String := none
deriving DecidableEq, Repr

/-- The scope of an extension. -/
structure Scope where
  cluster : Option ClusterScope := none
  inNamespace : Option NamespaceScope := none
deriving DecidableEq, Repr

/-- A managed identity. -/
structure Identity where
  kind : String
deriving DecidableEq, Repr

/-! ## 2. Extensions and patches -/

/-- An extension. -/
structure Extension where
  extensionType : String := ""
  autoUpgradeMinorVersion : Option Bool := none
  releaseTrain : Option String := none
  /-- Without a version the latest is meant. -/
  version : Option String := none
  scope : Scope := {}
  settings : OrderedMap String := .empty
  protectedSettings : OrderedMap String := .empty
  identity : Option Identity := none
deriving DecidableEq

/-- A patch. -/
structure Patch where
  autoUpgradeMinorVersion : Option Bool := none
  releaseTrain : Option String := none
  version : Option String := none
  settings : Option (OrderedMap String) := none
  protectedSettings : Option (OrderedMap String) := none
deriving DecidableEq

instance : Inhabited Extension := ⟨{}⟩
instance : Inhabited Patch := ⟨{}⟩

/-! ## 3. Writing -/

/-- The namespace is written even when there is none. -/
def ClusterScope.toJson (s : ClusterScope) : Json :=
  .object [("releaseNamespace", Json.ofString? s.releaseNamespace)]

/-- The namespace is written even when there is none. -/
def NamespaceScope.toJson (s : NamespaceScope) : Json :=
  .object [("targetNamespace", Json.ofString? s.targetNamespace)]

/-- Both kinds are written; the one that does not apply is `null`. -/
def Scope.toJson (s : Scope) : Json :=
  .object
    [("cluster", Json.ofOption ClusterScope.toJson s.cluster),
     ("namespace", Json.ofOption NamespaceScope.toJson s.inNamespace)]

/-- The kind of an identity is its `type`. -/
def Identity.toJson (i : Identity) : Json := .object [("type", .string i.kind)]

/-- The document of an extension. -/
def Extension.toJson (x : Extension) : Json :=
  .object
    [("extensionType", .string x.extensionType),
     ("autoUpgradeMinorVersion", Json.ofOption .bool x.autoUpgradeMinorVersion),
     ("releaseTrain", Json.ofString? x.releaseTrain),
     ("version", Json.ofString? x.version),
     ("scope", x.scope.toJson),
     ("configurationSettings", Json.ofStrings x.settings.entries),
     ("configurationProtectedSettings", Json.ofStrings x.protectedSettings.entries),
     ("identity", Json.ofOption Identity.toJson x.identity)]

/-- The document of a patch. -/
def Patch.toJson (p : Patch) : Json :=
  .object
    (Json.member? "autoUpgradeMinorVersion" .bool p.autoUpgradeMinorVersion ++
     Json.member? "releaseTrain" .string p.releaseTrain ++
     Json.member? "version" .string p.version ++
     Json.member? "configurationSettings" (fun m => Json.ofStrings m.entries) p.settings ++
     Json.member? "configurationProtectedSettings" (fun m => Json.ofStrings m.entries)
       p.protectedSettings)

/-! ## 4. Reading -/

/-- A cluster scope is read from an object, or from an array with its one field. -/
def ClusterScope.ofJson? (j : Json) : Option ClusterScope := do
  match ← j.fields? ["releaseNamespace"] false with
  | [ns] => return ⟨← Json.optional Json.string? ns⟩
  | _ => none

/-- A namespace scope is read from an object, or from an array with its one field. -/
def NamespaceScope.ofJson? (j : Json) : Option NamespaceScope := do
  match ← j.fields? ["targetNamespace"] false with
  | [ns] => return ⟨← Json.optional Json.string? ns⟩
  | _ => none

/-- A scope is read from an object, or from an array with its two fields. -/
def Scope.ofJson? (j : Json) : Option Scope := do
  match ← j.fields? ["cluster", "namespace"] false with
  | [cluster, inNamespace] =>
    return {
      cluster := ← Json.optional ClusterScope.ofJson? cluster
      inNamespace := ← Json.optional NamespaceScope.ofJson? inNamespace }
  | _ => none

/-- The type of an identity is the one field that may not be missing. -/
def Identity.ofJson? (j : Json) : Option Identity := do
  match ← j.fields? ["type"] false with
  | [some kind] => return ⟨← kind.string?⟩
  | _ => none

namespace Extension

/-- The names of the fields, in their order. -/
def fieldNames : List String :=
  ["extensionType", "autoUpgradeMinorVersion", "releaseTrain", "version", "scope",
   "configurationSettings", "configurationProtectedSettings", "identity"]

/-- The extension that a document describes. -/
def ofJson? (j : Json) : Option Extension := do
  match ← j.fields? fieldNames true with
  | [extensionType, autoUpgrade, releaseTrain, version, scope, settings, secrets, identity] =>
    return {
      extensionType := ← Json.fieldOr "" Json.string? extensionType
      autoUpgradeMinorVersion := ← Json.optional Json.bool? autoUpgrade
      releaseTrain := ← Json.optional Json.string? releaseTrain
      version := ← Json.optional Json.string? version
      scope := ← Json.fieldOr {} Scope.ofJson? scope
      settings := ← Json.fieldOr .empty Json.strings? settings
      protectedSettings := ← Json.fieldOr .empty Json.strings? secrets
      identity := ← Json.optional Identity.ofJson? identity }
  | _ => none

end Extension

end DaprHosting
