import DaprHosting.Layer.Load
import DaprHosting.Proofs.Settings.Reading

/-!
# What layers resolve to

A configuration that was loaded is that of the layers of its file and of its options together, by
`Kind.load_eq_ok_iff`. Its settings were read from the map of those given, and where none were
given there are none: no map that is handed on from a layer is empty.
-/

namespace DaprHosting

/-! ## 1. Loading -/

theorem Layer.Kind.load_eq_ok_iff {ρ κ : Type} {kind : Kind ρ κ} {files : Files}
    {path : Option String} {top : ρ} {config : κ} :
    kind.load files path top = .ok config ↔
      ∃ base, kind.ofFile files path = .ok base ∧
        kind.resolve (kind.overlay base top) = .ok config := by
  unfold Kind.load
  cases kind.ofFile files path with
  | error e => exact ⟨nofun, nofun⟩
  | ok base => exact ⟨fun h => ⟨base, rfl, h⟩, fun ⟨_, hb, h⟩ => by cases hb; exact h⟩

/-! ## 2. Settings of a layer -/

namespace SettingsLayer

/-- The map of what is given, if anything is. -/
def mapOf? (ss : List Setting) : Option (OrderedMap String) :=
  if ss.isEmpty then none else some (mapOf ss)

/-- What is given makes no empty map. -/
theorem isEmpty_of_mapOf? {ss : List Setting} {m : OrderedMap String} (h : mapOf? ss = some m) :
    m.isEmpty = false := by
  unfold mapOf? at h
  split at h
  · cases h
  · rename_i hne
    cases h
    rw [mapOf, OrderedMap.isEmpty_ofList, List.isEmpty_map]
    exact Bool.eq_false_iff.mpr hne

theorem resolveProtected_eq (l : SettingsLayer) :
    l.resolveProtected = mapOf? l.protectedSettings := rfl

/-- The settings of a layer were read from the map of those given. -/
theorem given_of_resolveSettings {l : SettingsLayer} {s : Option Settings}
    (h : l.resolveSettings = .ok s) : Settings.Given (mapOf? l.settings) s := by
  unfold resolveSettings at h
  unfold mapOf?
  split at h
  · rename_i hnone
    cases h
    rw [if_pos hnone]
    exact .nothing
  · rename_i hsome
    rw [if_neg hsome]
    split at h
    · rename_i s hread
      cases h
      exact .read hread
    · cases h

end SettingsLayer

/-! ## 3. The layer of a change -/

/-- The request of a change is that of its settings. -/
theorem UpdateLayer.request_of_resolve {l : UpdateLayer} {config : UpdateConfig}
    (h : l.resolve = .ok config) :
    ∃ settings, l.settings.resolveSettings = .ok settings ∧
      config.request =
        { autoUpgradeMinorVersion := l.settings.autoUpgradeMinorVersion
          releaseTrain := l.settings.releaseTrain
          version := l.settings.version
          settings := settings
          protectedSettings := l.settings.resolveProtected } := by
  unfold resolve at h
  cases hs : l.settings.resolveSettings with
  | error e =>
    rw [hs] at h
    cases h
  | ok settings =>
    cases hi : Layer.require "original" l.installed with
    | error e =>
      rw [hs, hi] at h
      cases h
    | ok installed =>
      rw [hs, hi] at h
      cases h
      exact ⟨settings, rfl, rfl⟩

/-- **What is loaded for a change**: settings that were read from the map of those given, and no
    empty map of protected ones. -/
theorem UpdateLayer.given_of_load {files : Files} {path : Option String} {top : UpdateLayer}
    {config : UpdateConfig} (h : Layer.update.load files path top = .ok config) :
    (∃ m, Settings.Given m config.request.settings) ∧
      ∀ m, config.request.protectedSettings = some m → m.isEmpty = false := by
  obtain ⟨base, -, hresolve⟩ := Layer.Kind.load_eq_ok_iff.mp h
  obtain ⟨settings, hs, hrequest⟩ := request_of_resolve hresolve
  rw [hrequest]
  refine ⟨⟨_, SettingsLayer.given_of_resolveSettings hs⟩, fun m hm => ?_⟩
  rw [SettingsLayer.resolveProtected_eq] at hm
  exact SettingsLayer.isEmpty_of_mapOf? hm

end DaprHosting
