import Mathlib
import DaprHosting.CommandLine.Commands
import DaprHosting.Proofs.Layer.Resolution
import DaprHosting.Proofs.Layer.Sources
import DaprHosting.Proofs.OrderedMap.Merged
import DaprHosting.Proofs.Settings.Refusal

/-!
# What a command is configured with

A command that was accepted, with a configuration file that parses, is configured from its sources.
`load_from_sources` says so of every command at once: what the configuration holds
(`Config.From`, option by option), and which complaint there is instead (`Sources.complaint?`).
-/

namespace DaprHosting

open CommandLine Layer

/-! ## 1. Complaints -/

namespace Sources

/-- The entries of the map of settings under a name. -/
def mapped (s : Sources) (name : String) : List (String × String) :=
  merged ((s.settings name).map Setting.toPair)

/-- The complaint about the first of the required options that no source has. -/
def missing? (s : Sources) (required : List (String × Option String)) : Option Layer.Error :=
  (required.find? fun r => s.lacks r.1 r.2).map fun r => .missing r.1

/-- The complaint about the first flag that is neither true nor false, or else about the first
    required option that no source has. -/
def complaint? (s : Sources) (settings : List (String × String))
    (required : List (String × Option String)) : Option Layer.Error :=
  match settings.find? Settings.unreadableFlag with
  | some e => some (.settings ⟨e.1, e.2⟩)
  | none => s.missing? required

end Sources

/-- There is the complaint, or else a result of which `P` holds. -/
def Layer.Resolved {α : Type} (complaint : Option Layer.Error) (P : α → Prop)
    (x : Except Layer.Error α) : Prop :=
  match complaint with
  | some e => x = .error e
  | none => ∃ a, x = .ok a ∧ P a

/-- The options that a command requires, with their variables, in the order in which they are
    missed. -/
def CommandLine.CommandName.required : CommandName → List (String × Option String)
  | .install => [("name", none)]
  | .update => [("original", none)]
  | .provision =>
    [("component-type", none), ("service-type", none),
     ("resource-group", some "DAPRCTL_RESOURCE_GROUP"), ("environment", some "DAPRCTL_ENVIRONMENT"),
     ("subscription-id", some "AZURE_SUBSCRIPTION_ID"), ("arm-token", some "DAPRCTL_ARM_TOKEN")]

/-- The settings of a command: provisioning has none. -/
def CommandLine.CommandName.settings (s : Sources) : CommandName → List (String × String)
  | .provision => []
  | _ => s.mapped "configuration-settings"

/-! ## 2. Configurations -/

/-- The log is configured from the sources. -/
structure Log.Logger.From (s : Sources) (c : Log.Logger) : Prop where
  format : c.format = (s.value? "log-format" (some "DAPRCTL_LOG_FORMAT")
    Choice.logFormat.ofName? (choice .logFormat)).getD .text
  level : c.level = (s.value? "log-level" (some "DAPRCTL_LOG_LEVEL")
    Choice.logLevel.ofName? (choice .logLevel)).getD .info

/-- An installation is configured from the sources. -/
structure InstallConfig.From (s : Sources) (c : InstallConfig) : Prop where
  name : some c.request.releaseName = s.value? "name" none some text
  releaseNamespace : c.request.releaseNamespace = s.value? "release-namespace" none some text
  clusterType : c.request.clusterType = (s.value? "cluster-type" none some text).getD ""
  scope : c.request.scope =
    (s.value? "scope" none Choice.scope.ofName? (ownChoice .scope)).getD .cluster
  extensionType : c.request.extensionType =
    (s.value? "extension-type" none some text).getD "Microsoft.Dapr"
  autoUpgradeMinorVersion : c.request.autoUpgradeMinorVersion =
    s.value? "auto-upgrade-minor-version" none truth? flag
  releaseTrain : c.request.releaseTrain = s.value? "release-train" none some text
  version : c.request.version = s.value? "version" none some text
  settings : ∃ m, m.entries = s.mapped "configuration-settings" ∧ Settings.Read m c.request.settings
  protectedSettings :
    c.request.protectedSettings.entries = s.mapped "configuration-protected-settings"
  logger : c.logger.From s

/-- A change is configured from the sources; no map of settings is there unless one is given. -/
structure UpdateConfig.From (s : Sources) (c : UpdateConfig) : Prop where
  installed : some c.installed = s.value? "original" none path? text
  autoUpgradeMinorVersion : c.request.autoUpgradeMinorVersion =
    s.value? "auto-upgrade-minor-version" none truth? flag
  releaseTrain : c.request.releaseTrain = s.value? "release-train" none some text
  version : c.request.version = s.value? "version" none some text
  settings :
    (s.mapped "configuration-settings" = [] ∧ c.request.settings = none) ∨
    ∃ m settings, m.isEmpty = false ∧ m.entries = s.mapped "configuration-settings" ∧
      c.request.settings = some settings ∧ Settings.Read m settings
  protectedSettings :
    (s.mapped "configuration-protected-settings" = [] ∧ c.request.protectedSettings = none) ∨
    ∃ m, m.isEmpty = false ∧ m.entries = s.mapped "configuration-protected-settings" ∧
      c.request.protectedSettings = some m
  logger : c.logger.From s

/-- A connection is configured from the sources. -/
structure Connection.From (s : Sources) (c : Connection) : Prop where
  subscriptionId : some c.subscriptionId = s.value? "subscription-id" (some "AZURE_SUBSCRIPTION_ID")
    Uuid.read? (ofText Uuid.read?)
  endpoint : c.endpoint = (s.value? "arm-endpoint" (some "DAPRCTL_ARM_ENDPOINT")
    Url.read? (ofText Url.read?)).getD ConnectionLayer.defaultEndpoint
  token : some c.token = s.value? "arm-token" (some "DAPRCTL_ARM_TOKEN")
    (fun v => (Token.read v).toOption) Layer.token
  apiVersion : c.apiVersion = (s.value? "api-version" (some "DAPRCTL_API_VERSION")
    some text).getD "2023-11-02-preview"
  timeout : c.timeout = (s.value? "request-timeout" (some "DAPRCTL_REQUEST_TIMEOUT")
    (fun v => (RequestTimeout.read v).toOption) Layer.timeout).getD RequestTimeout.default

/-- Provisioning is configured from the sources. -/
structure BindingConfig.From (s : Sources) (c : BindingConfig) : Prop where
  component : some c.component =
    s.value? "component-type" none Choice.component.ofName? (ownChoice .component)
  service : some c.service =
    s.value? "service-type" none Choice.service.ofName? (ownChoice .service)
  resourceGroup : some c.resourceGroup =
    s.value? "resource-group" (some "DAPRCTL_RESOURCE_GROUP") some text
  environment : some c.environment =
    s.value? "environment" (some "DAPRCTL_ENVIRONMENT") some text
  location : c.location = s.value? "location" none some text
  connection : c.connection.From s
  logger : c.logger.From s

/-- A command is configured from the sources. -/
inductive CommandLine.Config.From (s : Sources) : CommandName → Config → Prop where
  | install {c : InstallConfig} (h : c.From s) : From s .install (.install c)
  | update {c : UpdateConfig} (h : c.From s) : From s .update (.update c)
  | provision {c : BindingConfig} (h : c.From s) : From s .provision (.provision c)

/-! ## 3. Requirements -/

section Requirements

variable {α β : Type} {s : Sources} {P : α → Prop} {Q : β → Prop}

theorem Layer.Resolved.map {complaint : Option Layer.Error} {x : Except Layer.Error α} {f : α → β}
    (h : Resolved complaint P x) (hf : ∀ a, P a → Q (f a)) : Resolved complaint Q (f <$> x) := by
  cases complaint with
  | some e =>
    have hx : x = .error e := h
    rw [hx]
    rfl
  | none =>
    obtain ⟨a, hx, ha⟩ := h
    exact ⟨f a, by rw [hx]; rfl, hf a ha⟩

/-- A required option comes before those that are required after it. -/
theorem resolved_require {name : String} {variableName : Option String} {x : Option α}
    {f : α → Except Layer.Error β} {required : List (String × Option String)}
    (hx : x = none ↔ s.lacks name variableName = true)
    (hf : ∀ a, x = some a → Resolved (s.missing? required) Q (f a)) :
    Resolved (s.missing? ((name, variableName) :: required)) Q (require name x >>= f) := by
  cases x with
  | none =>
    have hlacks := hx.mp rfl
    simp only [Sources.missing?, List.find?_cons, hlacks]
    rfl
  | some a =>
    have hhas : s.lacks name variableName = false :=
      Bool.eq_false_iff.mpr fun h => nomatch hx.mpr h
    simp only [Sources.missing?, List.find?_cons, hhas]
    exact hf a rfl

/-- Settings come before everything that is required. -/
theorem resolved_settings {l : SettingsLayer} {f : Option Settings → Except Layer.Error β}
    {required : List (String × Option String)}
    (hl : l.settings = s.settings "configuration-settings")
    (hf : ∀ settings, Settings.Given (SettingsLayer.mapOf? l.settings) settings →
      Resolved (s.missing? required) Q (f settings)) :
    Resolved (s.complaint? (s.mapped "configuration-settings") required) Q
      (l.resolveSettings >>= f) := by
  have hentries : (SettingsLayer.mapOf l.settings).entries = s.mapped "configuration-settings" := by
    rw [hl]
    exact OrderedMap.entries_ofList_eq _
  have houtcome := Settings.outcome_ofMap (SettingsLayer.mapOf l.settings)
  rw [hentries] at houtcome
  have hempty : l.settings.isEmpty = true → s.mapped "configuration-settings" = [] := by
    intro h
    rw [← hentries, List.isEmpty_iff.mp h]
    rfl
  unfold Sources.complaint?
  cases hfind : (s.mapped "configuration-settings").find? Settings.unreadableFlag with
  | some e =>
    rw [hfind] at houtcome
    have hsome : ¬ l.settings.isEmpty = true := by
      intro h
      rw [hempty h] at hfind
      cases hfind
    have hresolve : l.resolveSettings = .error (.settings ⟨e.1, e.2⟩) := by
      rw [SettingsLayer.resolveSettings, if_neg hsome, houtcome]
    rw [hresolve]
    rfl
  | none =>
    rw [hfind] at houtcome
    obtain ⟨read, hread⟩ := houtcome
    cases hresolve : l.resolveSettings with
    | ok settings => exact hf settings (SettingsLayer.given_of_resolveSettings hresolve)
    | error e =>
      unfold SettingsLayer.resolveSettings at hresolve
      split at hresolve
      · cases hresolve
      · rw [hread] at hresolve
        cases hresolve

end Requirements

/-! ## 4. Resolving -/

variable {s : Sources}

theorem LoggingLayer.from_of_holds {l : LoggingLayer} (h : ∀ r ∈ rows, r.Holds s l) :
    l.resolve.From s := by
  simp only [rows, List.forall_mem_cons] at h
  obtain ⟨hformat, hlevel, -⟩ := h
  refine ⟨?_, ?_⟩
  · rw [← hformat.single_eq.1]
    rfl
  · rw [← hlevel.single_eq.1]
    rfl

/-- What the shared options of an extension hold. -/
structure SettingsLayer.From (s : Sources) (l : SettingsLayer) : Prop where
  autoUpgradeMinorVersion :
    l.autoUpgradeMinorVersion = s.value? "auto-upgrade-minor-version" none truth? flag
  releaseTrain : l.releaseTrain = s.value? "release-train" none some text
  version : l.version = s.value? "version" none some text
  settings : l.settings = s.settings "configuration-settings"
  protectedSettings : l.protectedSettings = s.settings "configuration-protected-settings"

theorem SettingsLayer.from_of_holds {l : SettingsLayer} (h : ∀ r ∈ rows, r.Holds s l) :
    l.From s := by
  simp only [rows, List.forall_mem_cons] at h
  obtain ⟨hauto, htrain, hversion, hsettings, hprotected, -⟩ := h
  exact ⟨hauto.single_eq.1, htrain.single_eq.1, hversion.single_eq.1, hsettings.many_eq,
    hprotected.many_eq⟩

/-- The map of what is given, by its entries; there is none where nothing is given. -/
theorem SettingsLayer.mapOf?_cases (ss : List Setting) :
    (merged (ss.map Setting.toPair) = [] ∧ mapOf? ss = none) ∨
      ∃ m, m.isEmpty = false ∧ m.entries = merged (ss.map Setting.toPair) ∧ mapOf? ss = some m := by
  cases hmap : mapOf? ss with
  | none =>
    unfold mapOf? at hmap
    split at hmap
    · rename_i hempty
      rw [List.isEmpty_iff.mp hempty]
      exact .inl ⟨rfl, rfl⟩
    · cases hmap
  | some m =>
    refine .inr ⟨m, isEmpty_of_mapOf? hmap, ?_, rfl⟩
    unfold mapOf? at hmap
    split at hmap
    · cases hmap
    · cases hmap
      exact OrderedMap.entries_ofList_eq _

theorem SettingsLayer.entries_getD_mapOf? (ss : List Setting) :
    ((mapOf? ss).getD .empty).entries = merged (ss.map Setting.toPair) := by
  rcases mapOf?_cases ss with ⟨hempty, hmap⟩ | ⟨m, -, hm, hmap⟩
  · rw [hmap, hempty]
    rfl
  · rw [hmap, Option.getD_some, hm]

theorem InstallLayer.resolved_resolve {l : InstallLayer} (h : ∀ r ∈ rows, r.Holds s l) :
    Resolved (s.complaint? (s.mapped "configuration-settings") [("name", none)])
      (InstallConfig.From s) l.resolve := by
  simp only [rows, List.forall_mem_append, List.forall_mem_map, Row.holds_within] at h
  obtain ⟨⟨hown, hsettings⟩, hlogging⟩ := h
  simp only [ownRows, List.forall_mem_cons] at hown
  obtain ⟨hname, hnamespace, hcluster, hscope, htype, -⟩ := hown
  have hshared := SettingsLayer.from_of_holds hsettings
  refine resolved_settings hshared.settings fun settings hgiven => ?_
  refine resolved_require hname.single_eq.2 fun name hsome => ?_
  refine ⟨_, rfl, ?_⟩
  constructor
  case name => exact hsome.symm.trans hname.single_eq.1
  case releaseNamespace => exact hnamespace.single_eq.1
  case clusterType => exact congrArg (Option.getD · "") hcluster.single_eq.1
  case scope => exact congrArg (Option.getD · .cluster) hscope.single_eq.1
  case extensionType =>
    exact congrArg (Option.getD · Installation.defaultExtensionType) htype.single_eq.1
  case autoUpgradeMinorVersion => exact hshared.autoUpgradeMinorVersion
  case releaseTrain => exact hshared.releaseTrain
  case version => exact hshared.version
  case settings =>
    refine ⟨_, ?_, hgiven.read_getD⟩
    rw [SettingsLayer.entries_getD_mapOf?, hshared.settings]
    rfl
  case protectedSettings =>
    exact (SettingsLayer.entries_getD_mapOf? _).trans (by rw [hshared.protectedSettings]; rfl)
  case logger => exact LoggingLayer.from_of_holds hlogging

theorem UpdateLayer.resolved_resolve {l : UpdateLayer} (h : ∀ r ∈ rows, r.Holds s l) :
    Resolved (s.complaint? (s.mapped "configuration-settings") [("original", none)])
      (UpdateConfig.From s) l.resolve := by
  simp only [rows, List.forall_mem_append, List.forall_mem_map, Row.holds_within] at h
  obtain ⟨⟨hown, hsettings⟩, hlogging⟩ := h
  simp only [ownRows, List.forall_mem_cons] at hown
  obtain ⟨hinstalled, -⟩ := hown
  have hshared := SettingsLayer.from_of_holds hsettings
  refine resolved_settings hshared.settings fun settings hgiven => ?_
  refine resolved_require hinstalled.single_eq.2 fun installed hsome => ?_
  refine ⟨_, rfl, ?_⟩
  constructor
  case installed => exact hsome.symm.trans hinstalled.single_eq.1
  case autoUpgradeMinorVersion => exact hshared.autoUpgradeMinorVersion
  case releaseTrain => exact hshared.releaseTrain
  case version => exact hshared.version
  case settings =>
    rw [Sources.mapped, ← hshared.settings]
    rcases SettingsLayer.mapOf?_cases l.settings.settings with ⟨hnone, hmap⟩ | ⟨m, hm, he, hmap⟩
    · rw [hmap] at hgiven
      cases hgiven
      exact .inl ⟨hnone, rfl⟩
    · rw [hmap] at hgiven
      cases hgiven with
      | read hread => exact .inr ⟨m, _, hm, he, rfl, Settings.read_of_ok hread⟩
  case protectedSettings =>
    rw [Sources.mapped, ← hshared.protectedSettings]
    exact SettingsLayer.mapOf?_cases l.settings.protectedSettings
  case logger => exact LoggingLayer.from_of_holds hlogging

theorem ConnectionLayer.resolved_resolve {l : ConnectionLayer} (h : ∀ r ∈ rows, r.Holds s l) :
    Resolved (s.missing? [("subscription-id", some "AZURE_SUBSCRIPTION_ID"),
      ("arm-token", some "DAPRCTL_ARM_TOKEN")]) (Connection.From s) l.resolve := by
  simp only [rows, List.forall_mem_cons] at h
  obtain ⟨hsubscription, hendpoint, htoken, hversion, htimeout, -⟩ := h
  refine resolved_require hsubscription.single_eq.2 fun subscription hfound => ?_
  refine resolved_require htoken.single_eq.2 fun token hsecret => ?_
  refine ⟨_, rfl, ?_⟩
  constructor
  case subscriptionId => exact hfound.symm.trans hsubscription.single_eq.1
  case endpoint => exact congrArg (Option.getD · defaultEndpoint) hendpoint.single_eq.1
  case token => exact hsecret.symm.trans htoken.single_eq.1
  case apiVersion => exact congrArg (Option.getD · defaultApiVersion) hversion.single_eq.1
  case timeout => exact congrArg (Option.getD · RequestTimeout.default) htimeout.single_eq.1

theorem BindingLayer.resolved_resolve {l : BindingLayer} (h : ∀ r ∈ rows, r.Holds s l) :
    Resolved (s.missing? CommandName.provision.required) (BindingConfig.From s) l.resolve := by
  simp only [rows, List.forall_mem_append, List.forall_mem_map, Row.holds_within] at h
  obtain ⟨⟨hown, hconnection⟩, hlogging⟩ := h
  simp only [ownRows, List.forall_mem_cons] at hown
  obtain ⟨hcomponent, hservice, hgroup, henvironment, hlocation, -⟩ := hown
  refine resolved_require hcomponent.single_eq.2 fun component hcomponent' => ?_
  refine resolved_require hservice.single_eq.2 fun service hservice' => ?_
  refine resolved_require hgroup.single_eq.2 fun group hgroup' => ?_
  refine resolved_require henvironment.single_eq.2 fun environment henvironment' => ?_
  rw [bind_pure_comp]
  refine (ConnectionLayer.resolved_resolve hconnection).map fun connection hfrom => ?_
  constructor
  case component => exact hcomponent'.symm.trans hcomponent.single_eq.1
  case service => exact hservice'.symm.trans hservice.single_eq.1
  case resourceGroup => exact hgroup'.symm.trans hgroup.single_eq.1
  case environment => exact henvironment'.symm.trans henvironment.single_eq.1
  case location => exact hlocation.single_eq.1
  case connection => exact hfrom
  case logger => exact LoggingLayer.from_of_holds hlogging

/-! ## 5. Commands -/

namespace CommandLine

/-- The values on a command's line, each under the name of its option. -/
def CommandName.line : CommandName → List String → List (String × String)
  | .install, words => given (layeredOptions installOptions) words
  | .update, words => given (layeredOptions updateOptions) words
  | .provision, words => given (layeredOptions bindingOptions) words

/-- The command has a configuration file that parses, with these entries, or none at all. -/
def Command.Parses (files : Files) (entries : List (String × Toml)) : Command → Prop
  | .install given => ∃ base, Layer.install.Parses files given.config entries base
  | .update given => ∃ base, Layer.update.Parses files given.config entries base
  | .provision given => ∃ base, Layer.binding.Parses files given.config entries base

end CommandLine

/-- A kind of layer is loaded from what its rows hold. -/
theorem Layer.Kind.Tabled.resolved_load {ρ κ : Type} {kind : Kind ρ κ} {rows : List (Row ρ)}
    {specs : List (OptionSpec ρ)} (h : kind.Tabled rows specs)
    {environment : String → Option String} {words : List String} {options : Layered ρ}
    {files : Files} {entries : List (String × Toml)} {base : ρ}
    (hread : readOptions (layeredOptions specs) environment ⟨.none, kind.none⟩ words = .ok options)
    (hfile : kind.Parses files options.config entries base) {complaint : Option Layer.Error}
    {P : κ → Prop}
    (hresolve : ∀ l,
      (∀ r ∈ rows, r.Holds ⟨given (layeredOptions specs) words, environment, entries⟩ l) →
        Resolved complaint P (kind.resolve l)) :
    Resolved complaint P (kind.load files options.config options.options) := by
  rw [Kind.load, hfile.ofFile]
  exact hresolve _ (h.holds hread hfile)

/-- **A command is configured from its sources**: each option is that of the line, or else that of
    its variable, or else that of the file, or else its default; the settings of the line follow
    those of the file; and the only complaints are about an unreadable flag among the settings and,
    where there is none, about a required option that no source has. -/
theorem load_from_sources {environment : String → Option String} {files : Files}
    {words : List String} {command : Command} {entries : List (String × Toml)}
    (hread : CommandLine.read environment words = .ok command)
    (hfile : command.Parses files entries) :
    ∃ name rest, choose tree words = .ok (name, rest) ∧
      let s : Sources := ⟨name.line rest, environment, entries⟩
      command.configPath? = s.text? "config" (some "DAPRCTL_CONFIG") ∧
      Resolved (s.complaint? (name.settings s) name.required) (Config.From s name)
        (command.load files) := by
  obtain ⟨⟨name, rest⟩, hchoose, hread⟩ := bind_eq_ok hread
  refine ⟨name, rest, hchoose, ?_⟩
  cases name with
  | install =>
    obtain ⟨options, hoptions, hread⟩ := bind_eq_ok hread
    cases hread
    obtain ⟨base, hfile⟩ := hfile
    refine ⟨InstallLayer.tabled.config_eq hoptions entries, Resolved.map ?_ fun _ h => .install h⟩
    exact InstallLayer.tabled.resolved_load hoptions hfile fun _ => InstallLayer.resolved_resolve
  | update =>
    obtain ⟨options, hoptions, hread⟩ := bind_eq_ok hread
    cases hread
    obtain ⟨base, hfile⟩ := hfile
    refine ⟨UpdateLayer.tabled.config_eq hoptions entries, Resolved.map ?_ fun _ h => .update h⟩
    exact UpdateLayer.tabled.resolved_load hoptions hfile fun _ => UpdateLayer.resolved_resolve
  | provision =>
    obtain ⟨options, hoptions, hread⟩ := bind_eq_ok hread
    cases hread
    obtain ⟨base, hfile⟩ := hfile
    refine ⟨BindingLayer.tabled.config_eq hoptions entries, Resolved.map ?_ fun _ h => .provision h⟩
    exact BindingLayer.tabled.resolved_load hoptions hfile fun _ => BindingLayer.resolved_resolve

theorem choose_install (line : List String) :
    choose tree ("addon" :: "create" :: line) = .ok (.install, line) := by
  have haddon : Word.of "addon" = .plain := by decide
  have hcreate : Word.of "create" = .plain := by decide
  rw [tree, choose]
  simp only [haddon, child?, String.reduceEq, if_false, if_true]
  rw [choose.eq_def]
  simp only [hcreate, child?, if_true]
  rw [choose.eq_def]

deriving instance DecidableEq for Layered

/-- The line and the file give a name and a flag, and the environment names the file: what is wrong
    with the flag of the file does no harm. -/
theorem load_from_sources_overridden_flag :
    let environment := fun v => if v = "DAPRCTL_CONFIG" then some "c.toml" else none
    let text := "name = \"old\"\nconfiguration-settings = [\"global.ha.enabled=maybe\"]\n"
    let files : Files := fun path => if path = "c.toml" then .ok text else .error .missing
    let line := ["--name", "dapr", "--configuration-settings", "global.ha.enabled=true"]
    let entries := [("name", Toml.string "old"),
      ("configuration-settings", .array [.string "global.ha.enabled=maybe"])]
    ∃ command config, CommandLine.read environment ("addon" :: "create" :: line) = .ok command ∧
      command.Parses files entries ∧ command.load files = .ok (.install config) ∧
      config.From ⟨CommandName.install.line line, environment, entries⟩ := by
  intro environment text files line entries
  let options : Layered InstallLayer := ⟨some "c.toml",
    { name := some "dapr", settings := { settings := [⟨"global.ha.enabled", "true"⟩] } }⟩
  have hoptions : readOptions (layeredOptions installOptions) environment ⟨none, {}⟩ line =
      .ok options := by
    decide +kernel
  have hread : CommandLine.read environment ("addon" :: "create" :: line) =
      .ok (.install options) := by
    simp only [CommandLine.read, choose_install, bind, Except.bind, hoptions]
    rfl
  have htext : files "c.toml" = .ok text := if_pos rfl
  have htoml : Toml.read? text = some entries := by cbv
  have hlayer : Layer.install.ofEntries entries =
      .ok { name := some "old", settings := { settings := [⟨"global.ha.enabled", "maybe"⟩] } } := by
    cbv
  have hfile := Kind.Parses.present htext htoml hlayer
  obtain ⟨name, rest, hname, -, hresolved⟩ := load_from_sources hread ⟨_, hfile⟩
  rw [choose_install] at hname
  cases hname
  have hcomplaint : Sources.complaint? ⟨CommandName.install.line line, environment, entries⟩
      (CommandName.install.settings ⟨CommandName.install.line line, environment, entries⟩)
      CommandName.install.required = none := by decide +kernel
  rw [hcomplaint] at hresolved
  obtain ⟨config, hload, hfrom⟩ := hresolved
  cases hfrom with
  | install hfrom => exact ⟨_, _, hread, ⟨_, hfile⟩, hload, hfrom⟩

end DaprHosting
