import DaprHosting.Layer.Load
import DaprHosting.Proofs.Redaction.Values

/-!
# Layers without protected values

The options of a file are stored one after the other, laid under those of the line, and resolved to
a configuration. Redaction commutes with each of these steps, in every layer: a file without its
protected values gives the layer without them (`ofEntries_redacted`), and that layer resolves to the
configuration without them (`resolve_redacted`), or to the same complaint.
-/

namespace DaprHosting

open Layer

variable {ρ τ : Type}

/-! ## 1. Maps -/

namespace OrderedMap

/-- The map without its values. -/
def redacted (m : OrderedMap String) : OrderedMap String where
  entries := m.entries.map fun e => (e.1, "")
  nodup := by
    rw [List.map_map]
    exact m.nodup

theorem redacted_insert (m : OrderedMap String) (name value : String) :
    (m.insert name value).redacted = m.redacted.insert name "" := by
  refine ext_entries ?_
  change (putEntry name value m.entries).map _ = putEntry name "" (m.entries.map _)
  induction m.entries with
  | nil => rfl
  | cons e es ih =>
    obtain ⟨k, v⟩ := e
    simp only [putEntry, List.map_cons]
    split
    · rfl
    · rw [List.map_cons, ih]

theorem redacted_insertAll (es : List (String × String)) :
    ∀ m : OrderedMap String,
      (m.insertAll es).redacted = m.redacted.insertAll (es.map fun e => (e.1, "")) := by
  induction es with
  | nil => exact fun _ => rfl
  | cons e es ih =>
    intro m
    rw [insertAll, List.foldl_cons, ← insertAll, ih, redacted_insert]
    rfl

end OrderedMap

/-! ## 2. Layers -/

/-- The name of the protected settings. -/
def SettingsLayer.protectedName : String := "configuration-protected-settings"

/-- The layer without the protected values. -/
def SettingsLayer.redacted (l : SettingsLayer) : SettingsLayer :=
  { l with protectedSettings := l.protectedSettings.map Setting.redacted }

/-- The layer without the protected values. -/
def InstallLayer.redacted (l : InstallLayer) : InstallLayer :=
  { l with settings := l.settings.redacted }

/-- The layer without the protected values. -/
def UpdateLayer.redacted (l : UpdateLayer) : UpdateLayer :=
  { l with settings := l.settings.redacted }

theorem SettingsLayer.mapOf_redacted (ss : List Setting) :
    mapOf (ss.map Setting.redacted) = (mapOf ss).redacted := by
  rw [mapOf, mapOf, OrderedMap.ofList, OrderedMap.ofList, OrderedMap.redacted_insertAll,
    List.map_map, List.map_map]
  rfl

theorem SettingsLayer.resolveProtected_redacted (l : SettingsLayer) :
    l.redacted.resolveProtected = l.resolveProtected.map OrderedMap.redacted := by
  unfold resolveProtected
  rw [redacted, List.isEmpty_map, mapOf_redacted]
  split <;> rfl

theorem SettingsLayer.overlay_redacted (base top : SettingsLayer) :
    (base.overlay top).redacted = base.redacted.overlay top.redacted := by
  simp only [redacted, overlay, follow, List.map_append]

/-! ## 3. Files -/

namespace Layer

open SettingsLayer (protectedName)

/-- The value of an option without what is protected of it. -/
def redactedUnder (key : String) (v : Toml) : Toml :=
  if key = protectedName then v.redactedSettings else v

/-- The entry without what is protected of it. -/
def redactedEntry (e : String × Toml) : String × Toml := (e.1, redactedUnder e.1 e.2)

theorem unreadable?_redactedUnder (key : String) (v : Toml) :
    (redactedUnder key v).unreadable? = v.unreadable? := by
  unfold redactedUnder
  split
  · exact v.unreadable?_redactedSettings
  · rfl

/-- An option of the file takes a redacted value as it takes the value, but for redaction. -/
structure FileOption.Redacts (hide : ρ → ρ) (f : FileOption ρ) : Prop where
  store : ∀ l v, f.store (hide l) (redactedUnder f.key v) = (f.store l v).map hide

/-- An option that is not protected. -/
theorem FileOption.Redacts.plain {α : Type} {hide : ρ → ρ} {key : String}
    {read : String → Reader α} {set : ρ → α → ρ} (hkey : key ≠ protectedName)
    (hset : ∀ l a, set (hide l) a = hide (set l a)) :
    (FileOption.of key read set).Redacts hide where
  store l v := by
    have hv : redactedUnder key v = v := if_neg hkey
    simp only [FileOption.of, hv]
    cases read key v with
    | error e => rfl
    | ok a => exact congrArg Except.ok (hset l a)

section Stores

variable {hide : ρ → ρ} {fields : List (FileOption ρ)} (h : ∀ f ∈ fields, f.Redacts hide)

include h in
theorem storeEntry_redacted (l : ρ) (e : String × Toml) :
    storeEntry fields (hide l) (redactedEntry e) = (storeEntry fields l e).map hide := by
  unfold storeEntry redactedEntry
  cases hfind : fields.find? fun f => f.key == e.1 with
  | none => rfl
  | some f =>
    have hkey : f.key = e.1 := by simpa only [beq_iff_eq] using List.find?_some hfind
    have hstore := (h f (List.mem_of_find?_eq_some hfind)).store l e.2
    rw [hkey] at hstore
    exact hstore

include h in
theorem storeAll_redacted (entries : List (String × Toml)) (l : ρ) :
    storeAll fields (hide l) (entries.map redactedEntry) = (storeAll fields l entries).map hide :=
  foldlM_map_of_commutes (storeEntry_redacted h) entries l

include h in
theorem storeOwn_redacted (entries : List (String × Toml)) (l : ρ) :
    storeOwn fields (hide l) (entries.map redactedEntry) =
      (storeOwn fields l entries).map hide := by
  refine foldlM_map_of_commutes (fun l e => ?_) entries l
  simp only [redactedEntry, unreadable?_redactedUnder]
  split
  · rfl
  · exact storeEntry_redacted h l e

end Stores

/-- The option that is protected. -/
theorem FileOption.Redacts.guarded :
    (FileOption.of protectedName Layer.settings
      fun (l : SettingsLayer) a => { l with protectedSettings := a }).Redacts
        SettingsLayer.redacted where
  store l v := by
    have hv : redactedUnder protectedName v = v.redactedSettings := if_pos rfl
    simp only [FileOption.of, hv, settings_redacted]
    cases Layer.settings protectedName v <;> rfl

theorem redacts_settingsFields : ∀ f ∈ SettingsLayer.fields, f.Redacts SettingsLayer.redacted := by
  simp only [SettingsLayer.fields, List.forall_mem_cons, List.not_mem_nil, false_imp_iff,
    implies_true, and_true]
  exact ⟨.plain (by decide) fun _ _ => rfl, .plain (by decide) fun _ _ => rfl,
    .plain (by decide) fun _ _ => rfl, .plain (by decide) fun _ _ => rfl, .guarded⟩

theorem redacts_loggingFields : ∀ f ∈ LoggingLayer.fields, f.Redacts id := by
  simp only [LoggingLayer.fields, List.forall_mem_cons, List.not_mem_nil, false_imp_iff,
    implies_true, and_true]
  and_intros <;> exact .plain (by decide) fun _ _ => rfl

theorem redacts_connectionFields : ∀ f ∈ ConnectionLayer.fields, f.Redacts id := by
  simp only [ConnectionLayer.fields, List.forall_mem_cons, List.not_mem_nil, false_imp_iff,
    implies_true, and_true]
  and_intros <;> exact .plain (by decide) fun _ _ => rfl

theorem redacts_installFields : ∀ f ∈ InstallLayer.fields, f.Redacts InstallLayer.redacted := by
  simp only [InstallLayer.fields, List.forall_mem_cons, List.not_mem_nil, false_imp_iff,
    implies_true, and_true]
  and_intros <;> exact .plain (by decide) fun _ _ => rfl

theorem redacts_updateFields : ∀ f ∈ UpdateLayer.fields, f.Redacts UpdateLayer.redacted := by
  simp only [UpdateLayer.fields, List.forall_mem_cons, List.not_mem_nil, false_imp_iff,
    implies_true, and_true]
  exact .plain (by decide) fun _ _ => rfl

theorem redacts_bindingFields : ∀ f ∈ BindingLayer.fields, f.Redacts id := by
  simp only [BindingLayer.fields, List.forall_mem_cons, List.not_mem_nil, false_imp_iff,
    implies_true, and_true]
  and_intros <;> exact .plain (by decide) fun _ _ => rfl

/-- Options of a command, of a group of options and of logging, read one after the other from
    entries without what is protected. -/
theorem storeGroups_redacted {hide : ρ → ρ} {hideGroup : τ → τ} {fields : List (FileOption ρ)}
    {groupFields : List (FileOption τ)} (hfields : ∀ f ∈ fields, f.Redacts hide)
    (hgroup : ∀ f ∈ groupFields, f.Redacts hideGroup) {put : ρ → τ → LoggingLayer → ρ}
    (hput : ∀ own part logging,
      put (hide own) (hideGroup part) logging = hide (put own part logging))
    (own : ρ) (part : τ) (entries : List (String × Toml)) :
    (do let own ← storeOwn fields (hide own) (entries.map redactedEntry)
        let part ← storeAll groupFields (hideGroup part) (entries.map redactedEntry)
        let logging ← storeAll LoggingLayer.fields {} (entries.map redactedEntry)
        return put own part logging) =
      Except.map hide (do
        let own ← storeOwn fields own entries
        let part ← storeAll groupFields part entries
        let logging ← storeAll LoggingLayer.fields {} entries
        return put own part logging) := by
  have hlogging : storeAll LoggingLayer.fields {} (entries.map redactedEntry) =
      (storeAll LoggingLayer.fields {} entries).map id :=
    storeAll_redacted redacts_loggingFields entries {}
  rw [storeOwn_redacted hfields, storeAll_redacted hgroup, hlogging]
  refine bind_map_of_commutes (fun own => ?_) _
  refine bind_map_of_commutes (fun part => ?_) _
  refine bind_map_of_commutes (fun logging => ?_) _
  exact congrArg Except.ok (hput own part logging)

end Layer

theorem InstallLayer.ofEntries_redacted (entries : List (String × Toml)) :
    ofEntries (entries.map redactedEntry) = (ofEntries entries).map redacted :=
  storeGroups_redacted redacts_installFields redacts_settingsFields (fun _ _ _ => rfl) {} {} entries

theorem UpdateLayer.ofEntries_redacted (entries : List (String × Toml)) :
    ofEntries (entries.map redactedEntry) = (ofEntries entries).map redacted :=
  storeGroups_redacted redacts_updateFields redacts_settingsFields (fun _ _ _ => rfl) {} {} entries

theorem BindingLayer.ofEntries_redacted (entries : List (String × Toml)) :
    ofEntries (entries.map redactedEntry) = (ofEntries entries).map id :=
  storeGroups_redacted redacts_bindingFields redacts_connectionFields (fun _ _ _ => rfl) {} {}
    entries

/-! ## 4. Configurations -/

/-- The request without the protected values. -/
def InstallRequest.redacted (r : InstallRequest) : InstallRequest :=
  { r with protectedSettings := r.protectedSettings.redacted }

/-- The request without the protected values. -/
def UpdateRequest.redacted (r : UpdateRequest) : UpdateRequest :=
  { r with protectedSettings := r.protectedSettings.map OrderedMap.redacted }

/-- The configuration without the protected values. -/
def InstallConfig.redacted (c : InstallConfig) : InstallConfig :=
  { c with request := c.request.redacted }

/-- The configuration without the protected values. -/
def UpdateConfig.redacted (c : UpdateConfig) : UpdateConfig :=
  { c with request := c.request.redacted }

theorem InstallLayer.resolve_redacted (l : InstallLayer) :
    l.redacted.resolve = l.resolve.map InstallConfig.redacted := by
  have hsettings : l.redacted.settings.resolveSettings = l.settings.resolveSettings := rfl
  have hprotected : l.redacted.settings.resolveProtected.getD .empty =
      (l.settings.resolveProtected.getD .empty).redacted := by
    refine (congrArg (Option.getD · .empty) l.settings.resolveProtected_redacted).trans ?_
    exact Option.getD_map OrderedMap.redacted .empty _
  unfold resolve
  rw [hsettings, hprotected]
  cases l.settings.resolveSettings with
  | error e => rfl
  | ok settings =>
    change (require "name" l.name >>= _) = _
    cases require "name" l.name <;> rfl

theorem UpdateLayer.resolve_redacted (l : UpdateLayer) :
    l.redacted.resolve = l.resolve.map UpdateConfig.redacted := by
  have hsettings : l.redacted.settings.resolveSettings = l.settings.resolveSettings := rfl
  have hprotected : l.redacted.settings.resolveProtected =
      l.settings.resolveProtected.map OrderedMap.redacted := l.settings.resolveProtected_redacted
  unfold resolve
  rw [hsettings, hprotected]
  cases l.settings.resolveSettings with
  | error e => rfl
  | ok settings =>
    change (require "original" l.installed >>= _) = _
    cases require "original" l.installed <;> rfl

end DaprHosting
