import DaprHosting.Proofs.Layer.Resolution

/-!
# What a patch carries

A patch says nothing of what it leaves out, and wipes what it says is empty. So its settings must
never be an empty map, and the hook that is turned off for a step back must be turned on again by
every other patch. `Carried` is what a patch has from its request, and `build_carries` says that
every patch is of this kind, on whatever is installed; a patch from layers of options holds no empty
map at all.

The branch for settings that would be empty is there, but the hook is always set, so it is never
taken: `submittedSettings_eq`.
-/

namespace DaprHosting

open Settings

/-! ## 1. The document of a patch -/

theorem Json.entry?_member? {α : Type} (name key : String) (write : α → Json) (v : Option α) :
    entry? name (Json.member? key write v) = if name = key then v.map write else none := by
  cases v with
  | none => exact (ite_self none).symm
  | some a => simp only [Json.member?, entry?, Option.map_some, eq_comm]

namespace Patch

/-- What stands under a name in the document of a patch. -/
def written? (p : Patch) (name : String) : Option Json :=
  p.toJson.members?.bind fun ms => entry? name ms

/-- **A field that is not set is not written**, and there is nothing but the fields. -/
theorem written?_eq (p : Patch) (name : String) :
    p.written? name =
      if name = "autoUpgradeMinorVersion" then p.autoUpgradeMinorVersion.map .bool
      else if name = "releaseTrain" then p.releaseTrain.map .string
      else if name = "version" then p.version.map .string
      else if name = "configurationSettings" then p.settings.map fun m => Json.ofStrings m.entries
      else if name = "configurationProtectedSettings" then
        p.protectedSettings.map fun m => Json.ofStrings m.entries
      else none := by
  simp only [written?, toJson, Json.members?, Option.bind_some, entry?_append, Json.entry?_member?]
  by_cases h₁ : name = "autoUpgradeMinorVersion"
  · subst h₁
    simp
  by_cases h₂ : name = "releaseTrain"
  · subst h₂
    simp
  by_cases h₃ : name = "version"
  · subst h₃
    simp
  by_cases h₄ : name = "configurationSettings"
  · subst h₄
    simp
  · simp [h₁, h₂, h₃, h₄]

/-! ## 2. The settings of a patch -/

/-- Both versions are known, and the one requested is behind the one installed. -/
def GoesBack (requested installed : Option String) : Prop :=
  ∃ r i, requested = some r ∧ installed = some i ∧ Version.isDowngrade r i = true

theorem goesBack_iff {requested installed : Option String} :
    goesBack requested installed = true ↔ GoesBack requested installed := by
  cases requested with
  | none => exact ⟨nofun, fun ⟨_, _, h, _⟩ => nomatch h⟩
  | some r =>
    cases installed with
    | none => exact ⟨nofun, fun ⟨_, _, _, h, _⟩ => nomatch h⟩
    | some i => exact ⟨fun h => ⟨r, i, rfl, rfl, h⟩, fun ⟨_, _, rfl, rfl, h⟩ => h⟩

instance (requested installed : Option String) : Decidable (GoesBack requested installed) :=
  decidable_of_iff _ goesBack_iff

/-- The hook is always set, so the settings are never empty. -/
theorem submittedSettings_eq (request : UpdateRequest) (installed : Option String) :
    submittedSettings request installed = some (settingsFor request installed).toMap := by
  have hset : (settingsFor request installed).isEmpty = false := by
    simp [settingsFor, Settings.isEmpty]
  rw [submittedSettings, hset]
  rfl

section Written

variable {given : Option (OrderedMap String)} {request : UpdateRequest}

theorem apart_settingsFor (h : Given given request.settings) (installed : Option String) :
    (settingsFor request installed).Apart :=
  h.read_getD.apart

/-- The hook is as the versions say, whatever was asked for. -/
theorem get?_settingsFor_hook (h : Given given request.settings) (installed : Option String) :
    (settingsFor request installed).toMap.get? applyCrdsHookKey =
      some (if GoesBack request.version installed then "false" else "true") := by
  rw [(apart_settingsFor h installed).get?_toMap, settingsFor, value?_with_applyCrdsHook, if_pos rfl]
  simp only [← goesBack_iff]
  cases goesBack request.version installed <;> rfl

/-- Everything else is as it was asked for. -/
theorem get?_settingsFor (h : Given given request.settings) (installed : Option String)
    {key : String} (hkey : key ≠ applyCrdsHookKey) :
    (settingsFor request installed).toMap.get? key = (request.settings.getD {}).value? key := by
  rw [(apart_settingsFor h installed).get?_toMap, settingsFor, value?_with_applyCrdsHook,
    if_neg hkey]

end Written

/-! ## 3. Patches -/

/-- **What a patch carries** for a request whose settings, if any, were read from a map. -/
structure Carried (given : Option (OrderedMap String)) (request : UpdateRequest)
    (installed : Extension) (patch : Patch) (map : OrderedMap String) : Prop where
  /-- There are settings, and some of them. -/
  settings : patch.settings = some map
  nonempty : map.isEmpty = false
  /-- The hook is off exactly for a step back. -/
  hook : map.get? applyCrdsHookKey =
    some (if GoesBack request.version installed.version then "false" else "true")
  /-- All other settings are those of the request. -/
  asked : ∀ key, key ≠ applyCrdsHookKey →
    map.get? key = (request.settings.getD {}).toMap.get? key
  /-- They are those of the map they were read from, flags in lower case. -/
  spelt : ∀ key, key ≠ applyCrdsHookKey →
    map.get? key = ((given.getD .empty).get? key).map (canonical key)
  /-- Those that no decision is made on keep their order. -/
  order : map.entries.filter unknown = (given.getD .empty).entries.filter unknown
  /-- The rest of the request is handed on. -/
  passed : patch.autoUpgradeMinorVersion = request.autoUpgradeMinorVersion ∧
    patch.releaseTrain = request.releaseTrain ∧ patch.version = request.version ∧
    patch.protectedSettings = request.protectedSettings
  /-- The document holds what is set, and nothing else. -/
  written : ∀ name, patch.written? name =
    if name = "autoUpgradeMinorVersion" then request.autoUpgradeMinorVersion.map .bool
    else if name = "releaseTrain" then request.releaseTrain.map .string
    else if name = "version" then request.version.map .string
    else if name = "configurationSettings" then some (Json.ofStrings map.entries)
    else if name = "configurationProtectedSettings" then
      request.protectedSettings.map fun m => Json.ofStrings m.entries
    else none

theorem carried_ofRequest {given : Option (OrderedMap String)} {request : UpdateRequest}
    (h : Given given request.settings) (installed : Extension) :
    Carried given request installed (ofRequest request installed)
      (settingsFor request installed.version).toMap := by
  have hread := h.read_getD
  have hapart := apart_settingsFor h installed.version
  have hsettings : (ofRequest request installed).settings =
      some (settingsFor request installed.version).toMap := submittedSettings_eq ..
  constructor
  case settings => exact hsettings
  case nonempty => exact OrderedMap.isEmpty_of_get? (get?_settingsFor_hook h _)
  case hook => exact get?_settingsFor_hook h _
  case asked =>
    intro key hkey
    rw [get?_settingsFor h _ hkey, hread.apart.get?_toMap]
  case spelt =>
    intro key hkey
    rw [get?_settingsFor h _ hkey, hread.value]
  case order =>
    rw [hapart.entries_toMap_unknown]
    exact hread.extra
  case passed => exact ⟨rfl, rfl, rfl, rfl⟩
  case written =>
    intro name
    rw [written?_eq, hsettings]
    rfl

variable {σ ε : Type}

/-- Building a patch never fails: a step back is only logged. -/
theorem build_result (request : UpdateRequest) (installed : Extension) (s : σ) :
    (build request installed s : Outcome σ ε Patch).result = .ok (ofRequest request installed) := by
  unfold build
  split <;> rfl

/-- Of what is installed only the version counts. -/
theorem build_congr (request : UpdateRequest) {installed other : Extension}
    (h : other.version = installed.version) :
    (build request other : Action σ ε Patch) = build request installed := by
  simp only [build, ofRequest, h]

/-- **Patches carry their requests.** For every request whose settings, if any, were read from a
    map, and on whatever is installed, a patch comes about, carries the request, and depends on what
    is installed only by its version. Where the request comes from layers of options, no map in the
    patch is empty. -/
theorem build_carries (s : σ) :
    (∀ (given : Option (OrderedMap String)) (request : UpdateRequest) (installed : Extension),
      Given given request.settings →
      (∃ patch map, (build request installed s : Outcome σ ε Patch).result = .ok patch ∧
        Carried given request installed patch map) ∧
      ∀ other : Extension, other.version = installed.version →
        (build request other : Action σ ε Patch) = build request installed) ∧
    ∀ (files : Files) (path : Option String) (top : UpdateLayer) (config : UpdateConfig)
      (installed : Extension), Layer.update.load files path top = .ok config →
      ∃ patch, (build config.request installed s : Outcome σ ε Patch).result = .ok patch ∧
        ∀ map, patch.settings = some map ∨ patch.protectedSettings = some map →
          map.isEmpty = false := by
  constructor
  · intro given request installed hgiven
    exact ⟨⟨_, _, build_result request installed s, carried_ofRequest hgiven installed⟩,
      fun other h => build_congr request h⟩
  · intro files path top config installed hload
    obtain ⟨⟨given, hgiven⟩, hprotected⟩ := UpdateLayer.given_of_load hload
    have hcarried := carried_ofRequest hgiven installed
    refine ⟨_, build_result config.request installed s, fun map hmap => ?_⟩
    rcases hmap with hmap | hmap
    · rw [hcarried.settings] at hmap
      cases hmap
      exact hcarried.nonempty
    · exact hprotected map hmap

/-- A step back turns the hook off although it was asked for, and options of the command line alone
    make a patch. -/
theorem build_carries_step_back :
    let m := OrderedMap.ofList
      [(applyCrdsHookKey, "true"), ("dapr.logLevel", "debug"), (haEnabledKey, "TRUE")]
    let request : UpdateRequest :=
      { version := some "1.9.0"
        settings := some { applyCrdsHook := some true, haEnabled := some true,
                           extra := OrderedMap.ofList [("dapr.logLevel", "debug")] } }
    let installed : Extension := { version := some "1.11.0" }
    let top : UpdateLayer :=
      { installed := some "installed.json", settings := { protectedSettings := [⟨"token", "t"⟩] } }
    GoesBack request.version installed.version ∧
      (∃ patch map, (build request installed () : Outcome Unit Layer.Error Patch).result = .ok patch ∧
        Carried (some m) request installed patch map) ∧
      ∃ config, Layer.update.load (fun _ => .error .missing) none top = .ok config ∧
        ∃ patch, (build config.request installed () : Outcome Unit Layer.Error Patch).result =
            .ok patch ∧
          ∀ map, patch.settings = some map ∨ patch.protectedSettings = some map →
            map.isEmpty = false := by
  intro m request installed top
  have hback : Version.isDowngrade "1.9.0" "1.11.0" = true := by decide
  obtain ⟨hcarried, -⟩ := (build_carries ()).1 (some m) request installed (.read rfl)
  exact ⟨⟨_, _, rfl, rfl, hback⟩, hcarried, _, rfl,
    (build_carries ()).2 (fun _ => .error .missing) none top _ installed rfl⟩

end Patch

end DaprHosting
