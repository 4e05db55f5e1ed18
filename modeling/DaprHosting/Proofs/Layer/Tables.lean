import DaprHosting.Proofs.Layer.Row
import DaprHosting.Layer.Load

/-!
# The tables of the layers

The rows of each layer, beside the options that its command takes and those that its file has. An
option that is stored, read or laid over as another one would have no place here: the tables say of
every field that it is the one of its name.
-/

namespace DaprHosting

open CommandLine Layer

/-! ## 1. Kinds of option -/

namespace Layer.Row

variable {ρ β : Type} {name : String} {variableName : Option String} {ofToml : String → Reader β}
  {get : ρ → Option β} {set : ρ → Option β → ρ} {store : ρ → β → ρ}

theorem takes_choice {ofText : String → Option β} (h : ∀ l b, store l b = set l (some b)) :
    (single name none ofText ofToml get set).Takes (choiceOption name ofText store) where
  long := rfl
  variableName := rfl
  repeatable := rfl
  store {text l l'} hstore := by
    simp only [choiceOption] at hstore
    split at hstore
    · rename_i b hb
      cases hstore
      exact ⟨some b, by simp only [single, hb, Option.map_some], h l b⟩
    · cases hstore

theorem takes_read {ofText : String → Option β} (h : ∀ l b, store l b = set l (some b)) :
    (single name none ofText ofToml get set).Takes (readOption name ofText store) where
  long := rfl
  variableName := rfl
  repeatable := rfl
  store {text l l'} hstore := by
    simp only [readOption] at hstore
    split at hstore
    · rename_i b hb
      cases hstore
      exact ⟨some b, by simp only [single, hb, Option.map_some], h l b⟩
    · cases hstore

theorem takes_timeout {ofToml : String → Reader RequestTimeout} {get : ρ → Option RequestTimeout}
    {set : ρ → Option RequestTimeout → ρ} {store : ρ → RequestTimeout → ρ}
    (h : ∀ l b, store l b = set l (some b)) :
    (single name none (fun v => (RequestTimeout.read v).toOption) ofToml get set).Takes
      (timeoutOption name store) where
  long := rfl
  variableName := rfl
  repeatable := rfl
  store {text l l'} hstore := by
    simp only [timeoutOption] at hstore
    split at hstore
    · rename_i t ht
      cases hstore
      exact ⟨some t, by simp only [single, ht, Except.toOption, Option.map_some], h l t⟩
    · cases hstore
    · cases hstore

theorem takes_text {ofToml : String → Reader String} {get : ρ → Option String}
    {set : ρ → Option String → ρ} {store : ρ → String → ρ}
    (h : ∀ l b, store l b = set l (some b)) :
    (single name none some ofToml get set).Takes (textOption name store) where
  long := rfl
  variableName := rfl
  repeatable := rfl
  store {text l l'} hstore := by
    cases hstore
    exact ⟨some text, rfl, h l text⟩

theorem Takes.orVariable {ofText : String → Option β} {o : OptionSpec ρ}
    (h : (single name none ofText ofToml get set).Takes o) (v : String) :
    (single name (some v) ofText ofToml get set).Takes (o.orVariable v) :=
  ⟨h.long, rfl, h.repeatable, h.store⟩

theorem Takes.orLetter {r : Row ρ} {o : OptionSpec ρ} (h : r.Takes o) (c : Char) :
    r.Takes (o.orLetter c) :=
  ⟨h.long, h.variableName, h.repeatable, h.store⟩

theorem inFile_single {ofText : String → Option β} (h : ∀ l b, store l b = set l (some b)) :
    (single name variableName ofText ofToml get set).InFile (.of name ofToml store) where
  key := rfl
  store {v l l'} hstore := by
    obtain ⟨b, hread, rfl⟩ := map_eq_ok hstore
    exact ⟨some b, congrArg (Except.map some) hread, h l b⟩

theorem inFile_many {ofText : String → Option β} {ofToml : String → Reader (List β)}
    {get : ρ → List β} {set : ρ → List β → ρ} :
    (many name ofText ofToml get set).InFile (.of name ofToml set) where
  key := rfl
  store {v l l'} hstore := by
    obtain ⟨b, hread, rfl⟩ := map_eq_ok hstore
    exact ⟨b, hread, rfl⟩

theorem takes_setting {get : SettingsLayer → List Setting}
    {set : SettingsLayer → List Setting → SettingsLayer}
    {add : SettingsLayer → Setting → SettingsLayer}
    {ofToml : String → Reader (List Setting)}
    (h : ∀ l s, add l s = set l (get l ++ [s])) :
    (many name (fun v => (Setting.ofAssignment v).toOption) ofToml get set).Takes
      (settingOption name add) where
  long := rfl
  variableName := rfl
  repeatable := rfl
  store {text l l'} hstore := by
    simp only [settingOption, readOption] at hstore
    split at hstore
    · rename_i s hs
      cases hstore
      exact ⟨[s], by simp only [many, hs, Option.map_some], h l s⟩
    · cases hstore

end Layer.Row

/-! ## 2. Groups of options -/

namespace LoggingLayer

/-- The options of the log. -/
def rows : List (Row LoggingLayer) :=
  [.single "log-format" (some "DAPRCTL_LOG_FORMAT") Choice.logFormat.ofName? (choice .logFormat)
     (·.format) fun l v => { l with format := v },
   .single "log-level" (some "DAPRCTL_LOG_LEVEL") Choice.logLevel.ofName? (choice .logLevel)
     (·.level) fun l v => { l with level := v }]

theorem rows_lawful : Rows rows where
  get_set := by simp [rows, Row.single]
  apart := by
    simp only [rows, List.pairwise_cons, List.forall_mem_cons, List.not_mem_nil, false_imp_iff,
      implies_true, and_true, List.Pairwise.nil]
    exact ⟨by decide, fun _ _ => rfl, fun _ _ => rfl⟩

theorem rows_take : List.Forall₂ Row.Takes rows loggingOptions :=
  .cons (.orVariable (Row.takes_choice fun _ _ => rfl) _) <|
  .cons (.orVariable (Row.takes_choice fun _ _ => rfl) _) .nil

theorem rows_inFile : List.Forall₂ Row.InFile rows fields :=
  .cons (Row.inFile_single fun _ _ => rfl) <|
  .cons (Row.inFile_single fun _ _ => rfl) .nil

theorem ofFile {entries : List (String × Toml)} (hn : (entries.map Prod.fst).Nodup)
    {l : LoggingLayer} (h : storeAll fields {} entries = .ok l) :
    ∀ r ∈ rows, r.OfFile entries (r.get l) :=
  rows_lawful.ofFile_of_storeAll rows_inFile (by simp [rows, Row.single]) hn h

end LoggingLayer

namespace SettingsLayer

/-- The options that `addon create` and `addon update` share. -/
def rows : List (Row SettingsLayer) :=
  [.single "auto-upgrade-minor-version" none truth? flag (·.autoUpgradeMinorVersion)
     fun l v => { l with autoUpgradeMinorVersion := v },
   .single "release-train" none some text (·.releaseTrain) fun l v => { l with releaseTrain := v },
   .single "version" none some text (·.version) fun l v => { l with version := v },
   .many "configuration-settings" (fun v => (Setting.ofAssignment v).toOption) Layer.settings
     (·.settings) fun l v => { l with settings := v },
   .many "configuration-protected-settings" (fun v => (Setting.ofAssignment v).toOption)
     Layer.settings (·.protectedSettings) fun l v => { l with protectedSettings := v }]

theorem rows_lawful : Rows rows where
  get_set := by simp [rows, Row.single, Row.many]
  apart := by
    simp only [rows, List.pairwise_cons, List.forall_mem_cons, List.not_mem_nil, false_imp_iff,
      implies_true, and_true, List.Pairwise.nil]
    and_intros <;> exact ⟨by decide, fun _ _ => rfl, fun _ _ => rfl⟩

theorem rows_take : List.Forall₂ Row.Takes rows settingsOptions :=
  .cons (Row.takes_choice fun _ _ => rfl) <|
  .cons (Row.takes_text fun _ _ => rfl) <|
  .cons (Row.takes_text fun _ _ => rfl) <|
  .cons (Row.takes_setting fun _ _ => rfl) <|
  .cons (Row.takes_setting fun _ _ => rfl) .nil

theorem rows_inFile : List.Forall₂ Row.InFile rows fields :=
  .cons (Row.inFile_single fun _ _ => rfl) <|
  .cons (Row.inFile_single fun _ _ => rfl) <|
  .cons (Row.inFile_single fun _ _ => rfl) <|
  .cons Row.inFile_many <|
  .cons Row.inFile_many .nil

theorem ofFile {entries : List (String × Toml)} (hn : (entries.map Prod.fst).Nodup)
    {l : SettingsLayer} (h : storeAll fields {} entries = .ok l) :
    ∀ r ∈ rows, r.OfFile entries (r.get l) :=
  rows_lawful.ofFile_of_storeAll rows_inFile (by simp [rows, Row.single, Row.many]) hn h

end SettingsLayer

namespace ConnectionLayer

/-- The options of a connection. -/
def rows : List (Row ConnectionLayer) :=
  [.single "subscription-id" (some "AZURE_SUBSCRIPTION_ID") Uuid.read? (ofText Uuid.read?)
     (·.subscriptionId) fun l v => { l with subscriptionId := v },
   .single "arm-endpoint" (some "DAPRCTL_ARM_ENDPOINT") Url.read? (ofText Url.read?)
     (·.endpoint) fun l v => { l with endpoint := v },
   .single "arm-token" (some "DAPRCTL_ARM_TOKEN") (fun v => (Token.read v).toOption) Layer.token
     (·.token) fun l v => { l with token := v },
   .single "api-version" (some "DAPRCTL_API_VERSION") some text
     (·.apiVersion) fun l v => { l with apiVersion := v },
   .single "request-timeout" (some "DAPRCTL_REQUEST_TIMEOUT")
     (fun v => (RequestTimeout.read v).toOption) Layer.timeout
     (·.timeout) fun l v => { l with timeout := v }]

theorem rows_lawful : Rows rows where
  get_set := by simp [rows, Row.single]
  apart := by
    simp only [rows, List.pairwise_cons, List.forall_mem_cons, List.not_mem_nil, false_imp_iff,
      implies_true, and_true, List.Pairwise.nil]
    and_intros <;> exact ⟨by decide, fun _ _ => rfl, fun _ _ => rfl⟩

theorem rows_take : List.Forall₂ Row.Takes rows connectionOptions :=
  .cons (.orVariable (Row.takes_read fun _ _ => rfl) _) <|
  .cons (.orVariable (Row.takes_read fun _ _ => rfl) _) <|
  .cons (.orVariable (Row.takes_read fun _ _ => rfl) _) <|
  .cons (.orVariable (Row.takes_text fun _ _ => rfl) _) <|
  .cons (.orVariable (Row.takes_timeout fun _ _ => rfl) _) .nil

theorem rows_inFile : List.Forall₂ Row.InFile rows fields :=
  .cons (Row.inFile_single fun _ _ => rfl) <|
  .cons (Row.inFile_single fun _ _ => rfl) <|
  .cons (Row.inFile_single fun _ _ => rfl) <|
  .cons (Row.inFile_single fun _ _ => rfl) <|
  .cons (Row.inFile_single fun _ _ => rfl) .nil

theorem ofFile {entries : List (String × Toml)} (hn : (entries.map Prod.fst).Nodup)
    {l : ConnectionLayer} (h : storeAll fields {} entries = .ok l) :
    ∀ r ∈ rows, r.OfFile entries (r.get l) :=
  rows_lawful.ofFile_of_storeAll rows_inFile (by simp [rows, Row.single]) hn h

end ConnectionLayer

/-! ## 3. Commands -/

namespace Layer

/-- The rows of a kind of layer, for the options of its command, its file and its overlay. -/
structure Kind.Tabled {ρ κ : Type} (kind : Kind ρ κ) (rows : List (Row ρ))
    (specs : List (OptionSpec ρ)) : Prop where
  lawful : Rows rows
  takes : List.Forall₂ Row.Takes rows specs
  /-- The option of the configuration file belongs to no layer. -/
  config : "config" ∉ rows.map Row.name
  /-- What may be repeated has no variable. -/
  unnamed : ∀ r ∈ rows, r.repeatable = true → r.variableName = .none
  nothing : ∀ r ∈ rows, r.get kind.none = r.nothing
  overlay : ∀ r ∈ rows, ∀ base top,
    r.get (kind.overlay base top) = r.lay (r.get base) (r.get top)
  ofFile : ∀ {entries l}, (entries.map Prod.fst).Nodup → kind.ofEntries entries = .ok l →
    ∀ r ∈ rows, r.OfFile entries (r.get l)

/-- What a file leaves in the rows of a command, of a group of options and of logging, which are
    read one after the other and `put` together. -/
theorem Rows.ofFile_of_groups {ρ τ : Type} {ownRows : List (Row ρ)} {groupRows : List (Row τ)}
    (hown : Rows ownRows) {fields : List (FileOption ρ)}
    (hfile : List.Forall₂ Row.InFile ownRows fields) {own : ρ}
    (hnothing : ∀ r ∈ ownRows, r.get own = r.nothing) {groupFields : List (FileOption τ)} {part : τ}
    {entries : List (String × Toml)}
    (hgroup : ∀ l, storeAll groupFields part entries = .ok l →
      ∀ r ∈ groupRows, r.OfFile entries (r.get l))
    {put : ρ → τ → LoggingLayer → ρ}
    (hput : ∀ r ∈ ownRows, ∀ own part logging, r.get (put own part logging) = r.get own)
    {getPart : ρ → τ} {setPart : ρ → τ → ρ} {getLogging : ρ → LoggingLayer}
    {setLogging : ρ → LoggingLayer → ρ}
    (hparts : ∀ own part logging, getPart (put own part logging) = part ∧
      getLogging (put own part logging) = logging)
    (hn : (entries.map Prod.fst).Nodup) {l : ρ}
    (h : (do
      let own ← storeOwn fields own entries
      let part ← storeAll groupFields part entries
      let logging ← storeAll LoggingLayer.fields {} entries
      return put own part logging) = Except.ok l) :
    ∀ r ∈ ownRows ++ groupRows.map (.within getPart setPart) ++
      LoggingLayer.rows.map (.within getLogging setLogging), r.OfFile entries (r.get l) := by
  obtain ⟨own, hstore, h⟩ := bind_eq_ok h
  obtain ⟨part, hpart, h⟩ := bind_eq_ok h
  obtain ⟨logging, hlogging, h⟩ := bind_eq_ok h
  cases h
  obtain ⟨hgetPart, hgetLogging⟩ := hparts own part logging
  refine List.forall_mem_append.mpr ⟨List.forall_mem_append.mpr ⟨?_, ?_⟩, ?_⟩
  · exact hown.ofFile_of_storeOwn hfile hnothing hn hstore fun r hr => hput r hr ..
  · refine List.forall_mem_map.mpr fun r hr => ?_
    have hrow := hgroup part hpart r hr
    rw [← hgetPart] at hrow
    exact hrow
  · refine List.forall_mem_map.mpr fun r hr => ?_
    have hrow := LoggingLayer.ofFile hn hlogging r hr
    rw [← hgetLogging] at hrow
    exact hrow

end Layer

namespace InstallLayer

/-- The options of `addon create` alone. -/
def ownRows : List (Row InstallLayer) :=
  [.single "name" none some text (·.name) fun l v => { l with name := v },
   .single "release-namespace" none some text (·.releaseNamespace)
     fun l v => { l with releaseNamespace := v },
   .single "cluster-type" none some text (·.clusterType) fun l v => { l with clusterType := v },
   .single "scope" none Choice.scope.ofName? (ownChoice .scope) (·.scope)
     fun l v => { l with scope := v },
   .single "extension-type" none some text (·.extensionType)
     fun l v => { l with extensionType := v }]

/-- The options of `addon create`. -/
def rows : List (Row InstallLayer) :=
  ownRows ++
  SettingsLayer.rows.map (.within (·.settings) fun l s => { l with settings := s }) ++
  LoggingLayer.rows.map (.within (·.logging) fun l g => { l with logging := g })

theorem ownRows_lawful : Rows ownRows where
  get_set := by simp [ownRows, Row.single]
  apart := by
    simp only [ownRows, List.pairwise_cons, List.forall_mem_cons, List.not_mem_nil, false_imp_iff,
      implies_true, and_true, List.Pairwise.nil]
    and_intros <;> exact ⟨by decide, fun _ _ => rfl, fun _ _ => rfl⟩

theorem rows_lawful : Rows rows := by
  refine (ownRows_lawful.append (SettingsLayer.rows_lawful.within fun _ _ => rfl) ?_).append
    (LoggingLayer.rows_lawful.within fun _ _ => rfl) ?_
  · simp only [ownRows, SettingsLayer.rows, List.map_cons, List.map_nil, List.forall_mem_cons,
      List.not_mem_nil, false_imp_iff, implies_true, and_true]
    and_intros <;> exact ⟨by decide, fun _ _ => rfl, fun _ _ => rfl⟩
  · simp only [ownRows, SettingsLayer.rows, LoggingLayer.rows, List.map_cons, List.map_nil,
      List.forall_mem_append, List.forall_mem_cons,
      List.not_mem_nil, false_imp_iff, implies_true, and_true]
    and_intros <;> exact ⟨by decide, fun _ _ => rfl, fun _ _ => rfl⟩

theorem ownRows_inFile : List.Forall₂ Row.InFile ownRows fields :=
  .cons (Row.inFile_single fun _ _ => rfl) <|
  .cons (Row.inFile_single fun _ _ => rfl) <|
  .cons (Row.inFile_single fun _ _ => rfl) <|
  .cons (Row.inFile_single fun _ _ => rfl) <|
  .cons (Row.inFile_single fun _ _ => rfl) .nil

theorem rows_take : List.Forall₂ Row.Takes rows installOptions := by
  refine List.rel_append (List.rel_append ?_ (Row.takes_within SettingsLayer.rows_take _ _))
    (Row.takes_within LoggingLayer.rows_take _ _)
  exact .cons (Row.takes_text fun _ _ => rfl) <|
    .cons (Row.takes_text fun _ _ => rfl) <|
    .cons (Row.takes_text fun _ _ => rfl) <|
    .cons (Row.takes_choice fun _ _ => rfl) <|
    .cons (Row.takes_text fun _ _ => rfl) .nil

theorem ofFile {entries : List (String × Toml)} (hn : (entries.map Prod.fst).Nodup)
    {l : InstallLayer} (h : ofEntries entries = .ok l) : ∀ r ∈ rows, r.OfFile entries (r.get l) :=
  ownRows_lawful.ofFile_of_groups ownRows_inFile (by simp [ownRows, Row.single])
    (fun _ h => SettingsLayer.ofFile hn h) (by simp [ownRows, Row.single]) (fun _ _ _ => ⟨rfl, rfl⟩)
    hn h

/-- **The table of `addon create`.** -/
theorem tabled : Layer.install.Tabled rows installOptions where
  lawful := rows_lawful
  takes := rows_take
  config := by decide
  unnamed := by
    simp [rows, ownRows, SettingsLayer.rows, LoggingLayer.rows, Row.within, Row.single, Row.many]
  nothing := by
    simp [rows, ownRows, SettingsLayer.rows, LoggingLayer.rows, Row.within, Row.single, Row.many,
      Layer.install]
  overlay := by
    simp [rows, ownRows, SettingsLayer.rows, LoggingLayer.rows, Row.within, Row.single, Row.many,
      Layer.install, overlay, SettingsLayer.overlay, LoggingLayer.overlay]
  ofFile hn h := ofFile hn h

end InstallLayer

namespace UpdateLayer

/-- The option of `addon update` alone. -/
def ownRows : List (Row UpdateLayer) :=
  [.single "original" none path? text (·.installed) fun l v => { l with installed := v }]

/-- The options of `addon update`. -/
def rows : List (Row UpdateLayer) :=
  ownRows ++
  SettingsLayer.rows.map (.within (·.settings) fun l s => { l with settings := s }) ++
  LoggingLayer.rows.map (.within (·.logging) fun l g => { l with logging := g })

theorem ownRows_lawful : Rows ownRows where
  get_set := by simp [ownRows, Row.single]
  apart := List.pairwise_singleton ..

theorem rows_lawful : Rows rows := by
  refine (ownRows_lawful.append (SettingsLayer.rows_lawful.within fun _ _ => rfl) ?_).append
    (LoggingLayer.rows_lawful.within fun _ _ => rfl) ?_
  · simp only [ownRows, SettingsLayer.rows, List.map_cons, List.map_nil, List.forall_mem_cons,
      List.not_mem_nil, false_imp_iff, implies_true, and_true]
    and_intros <;> exact ⟨by decide, fun _ _ => rfl, fun _ _ => rfl⟩
  · simp only [ownRows, SettingsLayer.rows, LoggingLayer.rows, List.map_cons, List.map_nil,
      List.forall_mem_append, List.forall_mem_cons,
      List.not_mem_nil, false_imp_iff, implies_true, and_true]
    and_intros <;> exact ⟨by decide, fun _ _ => rfl, fun _ _ => rfl⟩

theorem ownRows_inFile : List.Forall₂ Row.InFile ownRows fields :=
  .cons (Row.inFile_single fun _ _ => rfl) .nil

theorem rows_take : List.Forall₂ Row.Takes rows updateOptions := by
  refine List.rel_append (List.rel_append ?_ (Row.takes_within SettingsLayer.rows_take _ _))
    (Row.takes_within LoggingLayer.rows_take _ _)
  exact .cons (Row.takes_choice fun _ _ => rfl) .nil

theorem ofFile {entries : List (String × Toml)} (hn : (entries.map Prod.fst).Nodup)
    {l : UpdateLayer} (h : ofEntries entries = .ok l) : ∀ r ∈ rows, r.OfFile entries (r.get l) :=
  ownRows_lawful.ofFile_of_groups ownRows_inFile (by simp [ownRows, Row.single])
    (fun _ h => SettingsLayer.ofFile hn h) (by simp [ownRows, Row.single]) (fun _ _ _ => ⟨rfl, rfl⟩)
    hn h

/-- **The table of `addon update`.** -/
theorem tabled : Layer.update.Tabled rows updateOptions where
  lawful := rows_lawful
  takes := rows_take
  config := by decide
  unnamed := by
    simp [rows, ownRows, SettingsLayer.rows, LoggingLayer.rows, Row.within, Row.single, Row.many]
  nothing := by
    simp [rows, ownRows, SettingsLayer.rows, LoggingLayer.rows, Row.within, Row.single, Row.many,
      Layer.update]
  overlay := by
    simp [rows, ownRows, SettingsLayer.rows, LoggingLayer.rows, Row.within, Row.single, Row.many,
      Layer.update, overlay, SettingsLayer.overlay, LoggingLayer.overlay]
  ofFile hn h := ofFile hn h

end UpdateLayer

namespace BindingLayer

/-- The options of `binding provision` alone. -/
def ownRows : List (Row BindingLayer) :=
  [.single "component-type" none Choice.component.ofName? (ownChoice .component)
     (·.component) fun l v => { l with component := v },
   .single "service-type" none Choice.service.ofName? (ownChoice .service)
     (·.service) fun l v => { l with service := v },
   .single "resource-group" (some "DAPRCTL_RESOURCE_GROUP") some text
     (·.resourceGroup) fun l v => { l with resourceGroup := v },
   .single "environment" (some "DAPRCTL_ENVIRONMENT") some text
     (·.environment) fun l v => { l with environment := v },
   .single "location" none some text (·.location) fun l v => { l with location := v }]

/-- The options of `binding provision`. -/
def rows : List (Row BindingLayer) :=
  ownRows ++
  ConnectionLayer.rows.map (.within (·.connection) fun l c => { l with connection := c }) ++
  LoggingLayer.rows.map (.within (·.logging) fun l g => { l with logging := g })

theorem ownRows_lawful : Rows ownRows where
  get_set := by simp [ownRows, Row.single]
  apart := by
    simp only [ownRows, List.pairwise_cons, List.forall_mem_cons, List.not_mem_nil, false_imp_iff,
      implies_true, and_true, List.Pairwise.nil]
    and_intros <;> exact ⟨by decide, fun _ _ => rfl, fun _ _ => rfl⟩

theorem rows_lawful : Rows rows := by
  refine (ownRows_lawful.append (ConnectionLayer.rows_lawful.within fun _ _ => rfl) ?_).append
    (LoggingLayer.rows_lawful.within fun _ _ => rfl) ?_
  · simp only [ownRows, ConnectionLayer.rows, List.map_cons, List.map_nil, List.forall_mem_cons,
      List.not_mem_nil, false_imp_iff, implies_true, and_true]
    and_intros <;> exact ⟨by decide, fun _ _ => rfl, fun _ _ => rfl⟩
  · simp only [ownRows, ConnectionLayer.rows, LoggingLayer.rows, List.map_cons, List.map_nil,
      List.forall_mem_append, List.forall_mem_cons,
      List.not_mem_nil, false_imp_iff, implies_true, and_true]
    and_intros <;> exact ⟨by decide, fun _ _ => rfl, fun _ _ => rfl⟩

theorem ownRows_inFile : List.Forall₂ Row.InFile ownRows fields :=
  .cons (Row.inFile_single fun _ _ => rfl) <|
  .cons (Row.inFile_single fun _ _ => rfl) <|
  .cons (Row.inFile_single fun _ _ => rfl) <|
  .cons (Row.inFile_single fun _ _ => rfl) <|
  .cons (Row.inFile_single fun _ _ => rfl) .nil

theorem rows_take : List.Forall₂ Row.Takes rows bindingOptions := by
  refine List.rel_append (List.rel_append ?_ (Row.takes_within ConnectionLayer.rows_take _ _))
    (Row.takes_within LoggingLayer.rows_take _ _)
  exact .cons (Row.takes_choice fun _ _ => rfl) <|
    .cons (Row.takes_choice fun _ _ => rfl) <|
    .cons (.orLetter (.orVariable (Row.takes_text fun _ _ => rfl) _) _) <|
    .cons (.orVariable (Row.takes_text fun _ _ => rfl) _) <|
    .cons (.orLetter (Row.takes_text fun _ _ => rfl) _) .nil

theorem ofFile {entries : List (String × Toml)} (hn : (entries.map Prod.fst).Nodup)
    {l : BindingLayer} (h : ofEntries entries = .ok l) : ∀ r ∈ rows, r.OfFile entries (r.get l) :=
  ownRows_lawful.ofFile_of_groups ownRows_inFile (by simp [ownRows, Row.single])
    (fun _ h => ConnectionLayer.ofFile hn h) (by simp [ownRows, Row.single])
    (fun _ _ _ => ⟨rfl, rfl⟩) hn h

/-- **The table of `binding provision`.** -/
theorem tabled : Layer.binding.Tabled rows bindingOptions where
  lawful := rows_lawful
  takes := rows_take
  config := by decide
  unnamed := by
    simp [rows, ownRows, ConnectionLayer.rows, LoggingLayer.rows, Row.within, Row.single]
  nothing := by
    simp [rows, ownRows, ConnectionLayer.rows, LoggingLayer.rows, Row.within, Row.single,
      Layer.binding]
  overlay := by
    simp [rows, ownRows, ConnectionLayer.rows, LoggingLayer.rows, Row.within, Row.single,
      Layer.binding, overlay, ConnectionLayer.overlay, LoggingLayer.overlay]
  ofFile hn h := ofFile hn h

end BindingLayer

end DaprHosting
