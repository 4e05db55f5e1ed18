import DaprHosting.Proofs.Layer.Layering
import DaprHosting.Proofs.Operator.Questions
import DaprHosting.Proofs.Redaction.Load
import DaprHosting.Proofs.Redaction.Submission

/-!
# Protected values are not seen

Loading and submitting together make the whole way from the command line to what a run leaves. Runs
from two inputs that are the same but for protected values are `Alike`: they log the same events,
fail with the same code and message or leave documents that are the same but for these values, and
whoever answers is asked the same questions: `protected_values_unseen`.
-/

namespace DaprHosting

open CommandLine Layer

/-! ## 1. Reports -/

/-- What is seen of a failure: the exit code and the message. -/
def Failure.seen (w : Wording) (f : Failure) : ExitCode × String := (f.exitCode, f.message w)

namespace Report

/-- What is seen of the result: the document without protected values, or the failure. -/
def seen (w : Wording) (r : Report) : Except (ExitCode × String) Json :=
  (r.result.map Json.redacted).mapError (Failure.seen w)

/-- **Reports that cannot be told apart** but by protected values in their documents. -/
structure Alike (w : Wording) (r r' : Report) : Prop where
  logger : r.logger = r'.logger
  /-- What was logged before the end, at every level. -/
  log : r.log = r'.log
  seen : r.seen w = r'.seen w

variable {w : Wording} {r r' : Report}

/-- Both succeed, or both fail and the same is seen of it. -/
theorem Alike.results (h : r.Alike w r') :
    (∃ d d', r.result = .ok d ∧ r'.result = .ok d' ∧ d.redacted = d'.redacted) ∨
      ∃ f f', r.result = .error f ∧ r'.result = .error f' ∧ f.exitCode = f'.exitCode ∧
        f.message w = f'.message w := by
  have hseen := h.seen
  simp only [Report.seen] at hseen
  cases hr : r.result with
  | ok d =>
    cases hr' : r'.result with
    | ok d' =>
      rw [hr, hr'] at hseen
      exact .inl ⟨d, d', rfl, rfl, Except.ok.inj hseen⟩
    | error f' =>
      rw [hr, hr'] at hseen
      cases hseen
  | error f =>
    cases hr' : r'.result with
    | ok d' =>
      rw [hr, hr'] at hseen
      cases hseen
    | error f' =>
      rw [hr, hr'] at hseen
      obtain ⟨hcode, hmessage⟩ := Prod.mk.inj (Except.error.inj hseen)
      exact .inr ⟨f, f', rfl, rfl, hcode, hmessage⟩

theorem Alike.exitCode (h : r.Alike w r') : r.exitCode = r'.exitCode := by
  obtain ⟨d, d', hr, hr', -⟩ | ⟨f, f', hr, hr', hcode, -⟩ := h.results
  · rw [Report.exitCode, Report.exitCode, hr, hr']
  · rw [Report.exitCode, Report.exitCode, hr, hr']
    exact congrArg ExitCode.code hcode

/-- The logger lets the same events through, that of a failure among them. -/
theorem Alike.events (h : r.Alike w r') : r.events w = r'.events w := by
  unfold Report.events
  rw [h.logger, h.log]
  obtain ⟨d, d', hr, hr', -⟩ | ⟨f, f', hr, hr', hcode, hmessage⟩ := h.results
  · rw [hr, hr']
  · simp only [hr, hr', failureEvent, hcode, hmessage]

/-- Where nothing is logged yet the same words are told. -/
theorem Alike.plainLine? (h : r.Alike w r') : r.plainLine? w = r'.plainLine? w := by
  unfold Report.plainLine? Report.plainFailure?
  rw [h.logger]
  cases r'.logger with
  | some logger => rfl
  | none =>
    obtain ⟨d, d', hr, hr', -⟩ | ⟨f, f', hr, hr', hcode, hmessage⟩ := h.results
    · rw [hr, hr']
    · rw [hr, hr', Option.map_some, Option.map_some, Failure.line, Failure.line, hcode, hmessage]

/-- Outcomes that are the same but for protected values leave reports that are. -/
theorem ofOutcome_alike {σ α : Type} {o o' : Outcome σ Failure α} {hide : α → α}
    (h : o.through hide = o'.through hide) (logger : Log.Logger) {write : α → Json}
    (hwrite : ∀ a, (write a).redacted = write (hide a)) :
    (ofOutcome logger write o).Alike w (ofOutcome logger write o') where
  logger := rfl
  log := by
    have hlog : (o.through hide).log = (o'.through hide).log := by rw [h]
    exact hlog
  seen := by
    have hresult : ∀ o : Outcome σ Failure α,
        (o.result.map write).map Json.redacted = (o.result.map hide).map write := by
      intro o
      cases o.result with
      | error f => rfl
      | ok a => exact congrArg Except.ok (hwrite a)
    have hthrough : (o.through hide).result = (o'.through hide).result := by rw [h]
    simp only [Outcome.through] at hthrough
    simp only [Report.seen, ofOutcome, hresult, hthrough]

/-- Configurations that cannot be loaded leave the same when the same is seen of why. -/
theorem unconfigured_alike {e e' : Layer.Error} (h : e.seen w = e'.seen w) :
    Alike w ⟨.error (.configuration e), none, []⟩ ⟨.error (.configuration e'), none, []⟩ :=
  ⟨rfl, rfl, congrArg Except.error h⟩

end Report

/-! ## 2. Runs -/

/-- The configuration without the protected values. -/
def CommandLine.Config.redacted : Config → Config
  | .install c => .install c.redacted
  | .update c => .update c.redacted
  | .provision c => .provision c

section Runs

variable {σ : Type} (operator : Operator σ) {files files' : Files} (network : Http.Network)
  (s : Surroundings σ) {w : Wording}

theorem runUpdate_congr {c : UpdateConfig} (h : files c.installed = files' c.installed) :
    runUpdate files c = runUpdate files' c := by
  have hread : readExtension files c.installed = readExtension files' c.installed := by
    rw [readExtension, readExtension, h]
  rw [runUpdate, runUpdate, hread]

theorem runProvision_congr {c : BindingConfig}
    (h : ∀ path, (Config.provision c).inputPath? = some path → files path = files' path) :
    runProvision files network c = runProvision files' network c := by
  have htoken : c.connection.token.resolve files = c.connection.token.resolve files' := by
    simp only [Config.inputPath?] at h
    cases hsource : c.connection.token with
    | literal secret => rfl
    | file path =>
      rw [hsource] at h
      rw [Token.resolve, Token.resolve, h path rfl]
  rw [runProvision, runProvision, ResourceManager.connect, ResourceManager.connect, htoken]

/-- Installations that are asked for alike run alike, and leave the operator in the same state. -/
theorem runInstall_alike {c c' : InstallConfig} (h : c.redacted = c'.redacted) (a : σ) :
    (Report.ofOutcome c.logger Installation.toJson (runInstall operator c a)).Alike w
        (.ofOutcome c'.logger Installation.toJson (runInstall operator c' a)) ∧
      (runInstall operator c a).state = (runInstall operator c' a).state := by
  have hlogger : c.redacted.logger = c'.redacted.logger := by rw [h]
  have hrun : (runInstall operator c a).through Installation.redacted =
      (runInstall operator c' a).through Installation.redacted := by
    rw [← runInstall_redacted, ← runInstall_redacted, h]
  have hstate : ((runInstall operator c a).through Installation.redacted).state =
      ((runInstall operator c' a).through Installation.redacted).state := by rw [hrun]
  simp only [InstallConfig.redacted] at hlogger
  rw [hlogger]
  exact ⟨Report.ofOutcome_alike hrun _ Installation.toJson_redacted, hstate⟩

/-- Changes that are asked for alike, of extensions that are, run alike. -/
theorem runUpdate_alike {c c' : UpdateConfig} (h : c.redacted = c'.redacted)
    (hfiles : files c.installed = files' c.installed) :
    (Report.ofOutcome c.logger Patch.toJson (runUpdate files c ())).Alike w
      (.ofOutcome c'.logger Patch.toJson (runUpdate files' c' ())) := by
  have hlogger : c.redacted.logger = c'.redacted.logger := by rw [h]
  simp only [UpdateConfig.redacted] at hlogger
  have hrun : (runUpdate files c ()).through Patch.redacted =
      (runUpdate files' c' ()).through Patch.redacted := by
    rw [runUpdate_congr hfiles, ← runUpdate_redacted, ← runUpdate_redacted, h]
  rw [hlogger]
  exact Report.ofOutcome_alike hrun _ Patch.toJson_redacted

/-- **Configurations that are the same but for protected values run alike**, and whoever answers and
    the network are left in the same state. -/
theorem runConfig_alike {config config' : Config} (h : config.redacted = config'.redacted)
    (hinput : ∀ path, config.inputPath? = some path → files path = files' path) :
    (runConfig operator files network s config).1.Alike w
        (runConfig operator files' network s config').1 ∧
      (runConfig operator files network s config).2 =
        (runConfig operator files' network s config').2 := by
  cases config with
  | install c =>
    cases config' with
    | install c' =>
      obtain ⟨halike, hstate⟩ := runInstall_alike operator (Config.install.inj h) s.operator
      refine ⟨halike, ?_⟩
      simp only [runConfig, hstate]
    | update c' => cases h
    | provision c' => cases h
  | update c =>
    cases config' with
    | install c' => cases h
    | update c' => exact ⟨runUpdate_alike (Config.update.inj h) (hinput _ rfl), rfl⟩
    | provision c' => cases h
  | provision c =>
    cases config' with
    | install c' => cases h
    | update c' => cases h
    | provision c' =>
      obtain rfl := Config.provision.inj h
      have hrun := runProvision_congr network hinput
      simp only [runConfig, hrun, and_true]
      exact ⟨rfl, rfl, rfl⟩

end Runs

/-! ## 3. From the line to what a run leaves -/

namespace CommandLine

/-- The lines name the same command and give the same but for protected values. -/
def AlikeLines (words words' : List String) : Prop :=
  ∃ name line line', choose tree words = .ok (name, line) ∧ choose tree words' = .ok (name, line') ∧
    (CommandName.line name line).map redactedGiven = (name.line line').map redactedGiven

/-- What is loaded alike for a kind of layer is so for its command. -/
theorem map_redacted_eq {κ ε δ : Type} {f : ε → δ} {x x' : Except ε κ} {hide : κ → κ}
    {of : κ → Config} (h : (x.map hide).mapError f = (x'.map hide).mapError f)
    (hof : ∀ c, (of c).redacted = of (hide c)) :
    ((x.map of).map Config.redacted).mapError f = ((x'.map of).map Config.redacted).mapError f := by
  have hswap : ∀ x : Except ε κ,
      ((x.map of).map Config.redacted).mapError f = ((x.map hide).mapError f).map of := by
    intro x
    cases x with
    | error e => rfl
    | ok c => exact congrArg Except.ok (hof c)
  rw [hswap, hswap, h]

/-- **Every command loads the same but for protected values** from lines and files that are, or what
    is seen of the error is the same. -/
theorem load_redacted_eq {w : Wording} (hw : w.Discreet) {environment : String → Option String}
    {files files' : Files} {words words' : List String} {command command' : Command}
    (hread : CommandLine.read environment words = .ok command)
    (hread' : CommandLine.read environment words' = .ok command') (hlines : AlikeLines words words')
    (hfile : ∀ path, command.configPath? = some path →
      redactedFile (files path) = redactedFile (files' path)) :
    ((command.load files).map Config.redacted).mapError (Error.seen w) =
      ((command'.load files').map Config.redacted).mapError (Error.seen w) := by
  obtain ⟨name, line, line', hchoose, hchoose', hgiven⟩ := hlines
  obtain ⟨chosen, hchosen, hread⟩ := bind_eq_ok hread
  obtain ⟨chosen', hchosen', hread'⟩ := bind_eq_ok hread'
  obtain rfl := Except.ok.inj (hchoose.symm.trans hchosen)
  obtain rfl := Except.ok.inj (hchoose'.symm.trans hchosen')
  cases name with
  | install =>
    obtain ⟨options, hoptions, hread⟩ := bind_eq_ok hread
    obtain ⟨options', hoptions', hread'⟩ := bind_eq_ok hread'
    cases hread
    cases hread'
    refine map_redacted_eq ?_ fun _ => rfl
    exact redacts_install.load_options_eq hw InstallLayer.tabled hoptions hoptions' hgiven hfile
  | update =>
    obtain ⟨options, hoptions, hread⟩ := bind_eq_ok hread
    obtain ⟨options', hoptions', hread'⟩ := bind_eq_ok hread'
    cases hread
    cases hread'
    refine map_redacted_eq ?_ fun _ => rfl
    exact redacts_update.load_options_eq hw UpdateLayer.tabled hoptions hoptions' hgiven hfile
  | provision =>
    obtain ⟨options, hoptions, hread⟩ := bind_eq_ok hread
    obtain ⟨options', hoptions', hread'⟩ := bind_eq_ok hread'
    cases hread
    cases hread'
    refine map_redacted_eq ?_ fun _ => rfl
    exact redacts_binding.load_options_eq hw BindingLayer.tabled hoptions hoptions' hgiven hfile

end CommandLine

/-- Commands that load the same but for protected values run alike. -/
theorem run_alike {σ : Type} (operator : Operator σ) {files files' : Files}
    (network : Http.Network) (s : Surroundings σ) {w : Wording} {command command' : Command}
    (hload : ((command.load files).map Config.redacted).mapError (Error.seen w) =
      ((command'.load files').map Config.redacted).mapError (Error.seen w))
    (hinput : ∀ config path, command.load files = .ok config → config.inputPath? = some path →
      files path = files' path) :
    (run operator files network s command).1.Alike w
        (run operator files' network s command').1 ∧
      (run operator files network s command).2 = (run operator files' network s command').2 := by
  unfold run
  cases h : command.load files with
  | error e =>
    cases h' : command'.load files' with
    | error e' =>
      rw [h, h'] at hload
      exact ⟨Report.unconfigured_alike (Except.error.inj hload), rfl⟩
    | ok config' =>
      rw [h, h'] at hload
      cases hload
  | ok config =>
    cases h' : command'.load files' with
    | error e' =>
      rw [h, h'] at hload
      cases hload
    | ok config' =>
      rw [h, h'] at hload
      exact runConfig_alike operator network s (Except.ok.inj hload) fun path => hinput config path h

/-- **Protected values are not seen.** Two command lines that are accepted and two configuration
    files, the same but for protected values, over what is the same otherwise: what is loaded is the
    same but for them, or fails with the same code and message. The runs log the same events, show
    the same of them, tell the same words, ask the same questions, and end with the same code, and
    with documents that are the same but for these values or with the same message. -/
theorem protected_values_unseen {w : Wording} (hw : w.Discreet)
    {environment : String → Option String} {files files' : Files} {words words' : List String}
    {command command' : Command} (hread : CommandLine.read environment words = .ok command)
    (hread' : CommandLine.read environment words' = .ok command') (hlines : AlikeLines words words')
    (hfile : ∀ path, command.configPath? = some path →
      redactedFile (files path) = redactedFile (files' path))
    (hinput : ∀ config path, command.load files = .ok config → config.inputPath? = some path →
      files path = files' path) :
    ((command.load files).map Config.redacted).mapError (Error.seen w) =
        ((command'.load files').map Config.redacted).mapError (Error.seen w) ∧
      ∀ {σ : Type} (operator : Operator σ) (network : Http.Network)
        (s : Surroundings (Questioned σ)),
        let o := run operator.recording files network s command
        let o' := run operator.recording files' network s command'
        o.1.Alike w o'.1 ∧ o.1.events w = o'.1.events w ∧
          o.1.plainLine? w = o'.1.plainLine? w ∧ o.1.exitCode = o'.1.exitCode ∧ o.2 = o'.2 := by
  have hload := load_redacted_eq hw hread hread' hlines hfile
  refine ⟨hload, fun operator network s => ?_⟩
  obtain ⟨halike, hrest⟩ := run_alike operator.recording network s hload hinput
  exact ⟨halike, halike.events, halike.plainLine?, halike.exitCode, hrest⟩

/-- Two inputs with other passwords on the line and in the file: both load, the protected settings
    differ, and whoever answers, the runs cannot be told apart. -/
theorem protected_values_unseen_passwords :
    let environment := fun v => if v = "DAPRCTL_CONFIG" then some "c.toml" else none
    let text := "[configuration-protected-settings]\n\"redis.password\" = \"hunter2\"\n"
    let text' := "[configuration-protected-settings]\n\"redis.password\" = \"swordfish\"\n"
    let files : Files := fun path => if path = "c.toml" then .ok text else .error .missing
    let files' : Files := fun path => if path = "c.toml" then .ok text' else .error .missing
    let line := ["--name", "dapr", "--log-level", "debug", "--configuration-protected-settings",
      "token=a=b"]
    let line' := ["--name", "dapr", "--log-level", "debug", "--configuration-protected-settings",
      "token=c"]
    ∃ c c' : InstallConfig, ∃ command command',
      CommandLine.read environment ("addon" :: "create" :: line) = .ok command ∧
      CommandLine.read environment ("addon" :: "create" :: line') = .ok command' ∧
      command.load files = .ok (.install c) ∧ command'.load files' = .ok (.install c') ∧
      c.request.protectedSettings ≠ c'.request.protectedSettings ∧
      ∀ {σ : Type} (operator : Operator σ) (network : Http.Network)
        (s : Surroundings (Questioned σ)),
        let o := run operator.recording files network s command
        let o' := run operator.recording files' network s command'
        o.1.Alike .plain o'.1 ∧ o.1.events .plain = o'.1.events .plain ∧
          o.1.plainLine? .plain = o'.1.plainLine? .plain ∧ o.1.exitCode = o'.1.exitCode ∧
          o.2 = o'.2 := by
  intro environment text text' files files' line line'
  let options (value : String) : Layered InstallLayer := ⟨some "c.toml",
    { name := some "dapr", settings := { protectedSettings := [⟨"token", value⟩] },
      logging := { level := some .debug } }⟩
  let entries (value : String) :=
    [("configuration-protected-settings", Toml.table [("redis.password", .string value)])]
  have hread : CommandLine.read environment ("addon" :: "create" :: line) =
      .ok (.install (options "a=b")) := by
    have hoptions : readOptions (layeredOptions installOptions) environment ⟨none, {}⟩ line =
        .ok (options "a=b") := by decide +kernel
    simp only [CommandLine.read, choose_install, bind, Except.bind, hoptions]
    rfl
  have hread' : CommandLine.read environment ("addon" :: "create" :: line') =
      .ok (.install (options "c")) := by
    have hoptions : readOptions (layeredOptions installOptions) environment ⟨none, {}⟩ line' =
        .ok (options "c") := by decide +kernel
    simp only [CommandLine.read, choose_install, bind, Except.bind, hoptions]
    rfl
  have hlines : AlikeLines ("addon" :: "create" :: line) ("addon" :: "create" :: line') :=
    ⟨.install, line, line', choose_install line, choose_install line', by decide +kernel⟩
  have htoml : Toml.read? text = some (entries "hunter2") := by cbv
  have htoml' : Toml.read? text' = some (entries "swordfish") := by cbv
  have hfile : ∀ path, (Command.install (options "a=b")).configPath? = some path →
      redactedFile (files path) = redactedFile (files' path) := by
    rintro path ⟨⟩
    change Except.ok (redactedDocument text) = Except.ok (redactedDocument text')
    rw [redactedDocument, redactedDocument, htoml, htoml']
    rfl
  have hlayer : Layer.install.ofEntries (entries "hunter2") =
      .ok { settings := { protectedSettings := [⟨"redis.password", "hunter2"⟩] } } := by
    cbv
  have hlayer' : Layer.install.ofEntries (entries "swordfish") =
      .ok { settings := { protectedSettings := [⟨"redis.password", "swordfish"⟩] } } := by
    cbv
  have hload : ∃ c, (Command.install (options "a=b")).load files = .ok (.install c) ∧
      c.request.protectedSettings.get? "token" = some "a=b" := by
    rw [Command.load, Kind.load, (Kind.Parses.present (if_pos rfl) htoml hlayer).ofFile]
    exact ⟨_, rfl, by decide⟩
  have hload' : ∃ c, (Command.install (options "c")).load files' = .ok (.install c) ∧
      c.request.protectedSettings.get? "token" = some "c" := by
    rw [Command.load, Kind.load, (Kind.Parses.present (if_pos rfl) htoml' hlayer').ofFile]
    exact ⟨_, rfl, by decide⟩
  obtain ⟨c, hc, hvalue⟩ := hload
  obtain ⟨c', hc', hvalue'⟩ := hload'
  have hinput : ∀ config path, (Command.install (options "a=b")).load files = .ok config →
      config.inputPath? = some path → files path = files' path := by
    intro config path hconfig hpath
    rw [hc] at hconfig
    cases hconfig
    cases hpath
  obtain ⟨-, hruns⟩ :=
    protected_values_unseen Wording.plain_discreet hread hread' hlines hfile hinput
  refine ⟨c, c', _, _, hread, hread', hc, hc', fun heq => ?_, hruns⟩
  rw [heq, hvalue'] at hvalue
  exact absurd hvalue (by decide)

end DaprHosting
