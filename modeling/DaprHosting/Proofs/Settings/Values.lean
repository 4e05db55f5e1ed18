import DaprHosting.Proofs.OrderedMap.Entries
import DaprHosting.Settings

/-!
# Settings, key by key

`Settings.value?` reads settings as a map does: under a known key stands the text of its field,
under any other key what was carried through. As long as no known key was carried through (`Apart`),
writing the map gives exactly these values, by `get?_toMap`, and in it the settings that no decision
is made on stand as they were carried, by `entries_toMap_unknown`.

Decisions change single fields; what each does to the values is one lemma a field, so nothing that
follows has to open the map again.
-/

namespace DaprHosting.Settings

/-! ## 1. Keys and values -/

/-- The keys with a field of their own, in the order in which they are written. -/
def knownKeys : List String :=
  [clusterTypeKey, existingReleaseNameKey, existingReleaseNamespaceKey, haEnabledKey,
   skipExistingCheckKey, applyCrdsHookKey]

/-- The known keys whose values are true or false. -/
def flagKeys : List String := [haEnabledKey, skipExistingCheckKey, applyCrdsHookKey]

/-- The keys that together name a release. -/
def releaseKeys : List String := [existingReleaseNameKey, existingReleaseNamespaceKey]

/-- The keys that only say which release there is. -/
def controlKeys : List String := skipExistingCheckKey :: releaseKeys

/-- The entry is under no known key. -/
def unknown (e : String × String) : Bool := e.1 ∉ knownKeys

/-- What the settings say under a key. -/
def value? (s : Settings) (key : String) : Option String :=
  if key = clusterTypeKey then s.clusterType
  else if key = haEnabledKey then s.haEnabled.map flagText
  else if key = skipExistingCheckKey then s.skipExistingCheck.map flagText
  else if key = existingReleaseNameKey then s.existingReleaseName
  else if key = existingReleaseNamespaceKey then s.existingReleaseNamespace
  else if key = applyCrdsHookKey then s.applyCrdsHook.map flagText
  else s.extra.get? key

/-- **No known key was carried through**: it would overwrite the field. -/
def Apart (s : Settings) : Prop := ∀ key ∈ s.extra.names, key ∉ knownKeys

theorem knownKeys_nodup : knownKeys.Nodup := by decide

theorem value?_of_notMem (s : Settings) {key : String} (h : key ∉ knownKeys) :
    s.value? key = s.extra.get? key := by
  simp only [knownKeys, List.mem_cons, List.not_mem_nil, or_false, not_or] at h
  simp only [value?, h, if_false]

/-! ## 2. One field changed -/

section Changed

variable (s : Settings) (key : String)

theorem value?_with_clusterType (v : Option String) :
    ({ s with clusterType := v } : Settings).value? key =
      if key = clusterTypeKey then v else s.value? key := by
  by_cases h : key = clusterTypeKey
  · subst h
    rfl
  · simp only [value?, h, if_false]

theorem value?_with_haEnabled (v : Option Bool) :
    ({ s with haEnabled := v } : Settings).value? key =
      if key = haEnabledKey then v.map flagText else s.value? key := by
  by_cases h : key = haEnabledKey
  · subst h
    rfl
  · simp only [value?, h, if_false]

theorem value?_with_skipExistingCheck (v : Option Bool) :
    ({ s with skipExistingCheck := v } : Settings).value? key =
      if key = skipExistingCheckKey then v.map flagText else s.value? key := by
  by_cases h : key = skipExistingCheckKey
  · subst h
    rfl
  · simp only [value?, h, if_false]

theorem value?_with_existingReleaseName (v : Option String) :
    ({ s with existingReleaseName := v } : Settings).value? key =
      if key = existingReleaseNameKey then v else s.value? key := by
  by_cases h : key = existingReleaseNameKey
  · subst h
    rfl
  · simp only [value?, h, if_false]

theorem value?_with_existingReleaseNamespace (v : Option String) :
    ({ s with existingReleaseNamespace := v } : Settings).value? key =
      if key = existingReleaseNamespaceKey then v else s.value? key := by
  by_cases h : key = existingReleaseNamespaceKey
  · subst h
    rfl
  · simp only [value?, h, if_false]

theorem value?_with_applyCrdsHook (v : Option Bool) :
    ({ s with applyCrdsHook := v } : Settings).value? key =
      if key = applyCrdsHookKey then v.map flagText else s.value? key := by
  by_cases h : key = applyCrdsHookKey
  · subst h
    rfl
  · simp only [value?, h, if_false]

/-- What is carried through under a known key would not be seen. -/
theorem value?_with_extra {k : String} (v : String) (hk : k ∉ knownKeys) :
    ({ s with extra := s.extra.insert k v } : Settings).value? key =
      if key = k then some v else s.value? key := by
  by_cases h : key ∈ knownKeys
  · have hne : key ≠ k := fun e => hk (e ▸ h)
    rw [if_neg hne]
    simp only [knownKeys, List.mem_cons, List.not_mem_nil, or_false] at h
    rcases h with rfl | rfl | rfl | rfl | rfl | rfl <;> rfl
  · rw [value?_of_notMem _ h, value?_of_notMem _ h, OrderedMap.get?_insert]

end Changed

/-! ## 3. The map that is written -/

theorem map_fst_entryOf_sublist (key : String) (v : Option String) :
    ((entryOf key v).map Prod.fst).Sublist [key] := by
  cases v with
  | none => exact List.nil_sublist _
  | some v => exact .refl _

/-- The known keys that are set are written in their order. -/
theorem map_fst_knownEntries_sublist (s : Settings) :
    (s.knownEntries.map Prod.fst).Sublist knownKeys := by
  simp only [knownEntries, List.map_append]
  exact (((((map_fst_entryOf_sublist _ _).append (map_fst_entryOf_sublist _ _)).append
    (map_fst_entryOf_sublist _ _)).append (map_fst_entryOf_sublist _ _)).append
    (map_fst_entryOf_sublist _ _)).append (map_fst_entryOf_sublist _ _)

theorem entry?_entryOf (name key : String) (v : Option String) :
    entry? name (entryOf key v) = if key = name then v else none := by
  cases v with
  | none => exact (ite_self none).symm
  | some v => rfl

theorem entry?_knownEntries (s : Settings) {key : String} (h : key ∈ knownKeys) :
    entry? key s.knownEntries = s.value? key := by
  simp only [knownEntries, entry?_append, entry?_entryOf]
  simp only [knownKeys, List.mem_cons, List.not_mem_nil, or_false] at h
  rcases h with rfl | rfl | rfl | rfl | rfl | rfl <;>
    simp [value?, clusterTypeKey, haEnabledKey, skipExistingCheckKey, existingReleaseNameKey,
      existingReleaseNamespaceKey, applyCrdsHookKey]

namespace Apart

variable {s : Settings}

theorem get?_extra_of_mem (h : s.Apart) {key : String} (hk : key ∈ knownKeys) :
    s.extra.get? key = none :=
  OrderedMap.get?_eq_none_iff.mpr fun hm => h key hm hk

/-- Nothing is overwritten, so the entries of the map are those that were written. -/
theorem entries_toMap (h : s.Apart) :
    s.toMap.entries = s.knownEntries ++ s.extra.entries := by
  refine OrderedMap.entries_ofList ?_
  rw [List.map_append]
  refine List.nodup_append.mpr
    ⟨(map_fst_knownEntries_sublist s).nodup knownKeys_nodup, s.extra.nodup, ?_⟩
  intro key hk key' hk' e
  exact h key' hk' (e ▸ (map_fst_knownEntries_sublist s).subset hk)

/-- **The map says what the settings say.** -/
theorem get?_toMap (h : s.Apart) (key : String) : s.toMap.get? key = s.value? key := by
  rw [OrderedMap.get?, h.entries_toMap, entry?_append]
  by_cases hk : key ∈ knownKeys
  · rw [entry?_knownEntries s hk, ← OrderedMap.get?, h.get?_extra_of_mem hk, Option.or_none]
  · have hn : entry? key s.knownEntries = none :=
      entry?_eq_none_iff.mpr fun hm => hk ((map_fst_knownEntries_sublist s).subset hm)
    rw [hn, Option.none_or, value?_of_notMem s hk]
    rfl

/-- **What no decision is made on is written as it was carried.** -/
theorem entries_toMap_unknown (h : s.Apart) :
    s.toMap.entries.filter unknown = s.extra.entries := by
  have hknown : s.knownEntries.filter unknown = [] := by
    refine List.filter_eq_nil_iff.mpr fun e he => ?_
    have hk := (map_fst_knownEntries_sublist s).subset (List.mem_map_of_mem he)
    simpa [unknown] using hk
  have hextra : s.extra.entries.filter unknown = s.extra.entries := by
    refine List.filter_eq_self.mpr fun e he => ?_
    simpa [unknown] using h e.1 (List.mem_map_of_mem he)
  rw [h.entries_toMap, List.filter_append, hknown, hextra, List.nil_append]

end Apart

end DaprHosting.Settings
