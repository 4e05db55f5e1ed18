import DaprHosting.Proofs.Json.Written
import DaprHosting.Proofs.Provision.Cause
import DaprHosting.Proofs.Upgrade.Carried
import DaprHosting.Run

/-!
# What a run leaves

A command makes one document or none (`Makes`), and a client error may surface on the way, while the
client is made or from one of its calls (`Surfaces`). By `run_is_reported` both can be told from
outside: zero and the document on standard output, or another code and nothing; and the code of a
run in which a client error surfaced is that of this error, wherever it was.
-/

namespace DaprHosting

open CommandLine (Command)

/-! ## 1. Documents -/

/-- An extension is a document of texts. -/
theorem Extension.textual (x : Extension) : x.toJson.Textual := by
  have hscope : x.scope.toJson.Textual := by
    refine .object ?_
    simp only [List.mem_cons, List.not_mem_nil, or_false, forall_eq_or_imp, forall_eq]
    refine ⟨.ofOption (fun c => ?_) _, .ofOption (fun n => ?_) _⟩
    · refine .object fun m hm => ?_
      rw [List.mem_singleton.mp hm]
      exact .ofOption .string c.releaseNamespace
    · refine .object fun m hm => ?_
      rw [List.mem_singleton.mp hm]
      exact .ofOption .string n.targetNamespace
  have hidentity : ∀ i : Identity, i.toJson.Textual := by
    intro i
    refine .object fun m hm => ?_
    rw [List.mem_singleton.mp hm]
    exact .string i.kind
  refine .object ?_
  simp only [List.mem_cons, List.not_mem_nil, or_false, forall_eq_or_imp, forall_eq]
  exact ⟨.string _, .ofOption .bool _, .ofOption .string _, .ofOption .string _, hscope,
    .ofStrings _, .ofStrings _, .ofOption hidentity _⟩

theorem Installation.textual (i : Installation) : i.toJson.Textual := by
  refine .object ?_
  simp only [List.mem_cons, List.not_mem_nil, or_false, forall_eq_or_imp, forall_eq]
  exact ⟨.string _, i.extension.textual⟩

/-- So is a patch, whatever is left out of it. -/
theorem Patch.textual (p : Patch) : p.toJson.Textual := by
  have hsettings : ∀ m : OrderedMap String, (Json.ofStrings m.entries).Textual :=
    fun m => .ofStrings m.entries
  refine .object ?_
  simp only [List.forall_mem_append]
  exact ⟨⟨⟨⟨Json.Textual.member? .bool, Json.Textual.member? .string⟩,
    Json.Textual.member? .string⟩, Json.Textual.member? hsettings⟩,
    Json.Textual.member? hsettings⟩

theorem Provisioned.textual (p : Provisioned) : p.toJson.Textual := by
  refine .object ?_
  simp only [List.mem_cons, List.not_mem_nil, or_false, forall_eq_or_imp, forall_eq]
  exact ⟨.string _, .string _⟩

/-! ## 2. Codes -/

/-- No failure exits with the code of success. -/
theorem ExitCode.code_ne_zero (c : ExitCode) : c.code ≠ 0 := by
  cases c <;> decide

/-- The client error in a failure, however deep it is wrapped. -/
def Failure.cause? : Failure → Option ClientError
  | .client e => some e
  | .provision e => e.cause?
  | _ => none

/-- **A client error decides the exit code**, wherever it is in the failure. -/
theorem Failure.exitCode_of_cause? {f : Failure} {e : ClientError} (h : f.cause? = some e) :
    f.exitCode = e.exitCode := by
  cases f with
  | client e' =>
    cases h
    rfl
  | provision error =>
    cases error with
    | lookup _ _ e' =>
      cases h
      rfl
    | serviceCreation _ _ fault =>
      cases fault
      · cases h
        rfl
      · cases h
    | componentCreation _ _ fault =>
      cases fault
      · cases h
        rfl
      · cases h
    | _ => cases h
  | _ => cases h

/-! ## 3. Results -/

section Results

variable {σ : Type} (operator : Operator σ) (files : Files) (network : Http.Network)
  (s : Surroundings σ) (command : Command)

/-- **What a command makes**: the extension to create, the patch, or the two ids. -/
inductive Makes : Json → Prop where
  | extension {c : InstallConfig} {i : Installation} (hload : command.load files = .ok (.install c))
      (h : (Installation.build operator c.request s.operator).result = .ok i) : Makes i.toJson
  | patch {c : UpdateConfig} {x : Extension} (hload : command.load files = .ok (.update c))
      (h : readExtension files c.installed = .ok x) : Makes (Patch.ofRequest c.request x).toJson
  | ids {c : BindingConfig} {m : ResourceManager} {ids : Provisioned}
      (hload : command.load files = .ok (.provision c))
      (hclient : ResourceManager.connect files c.connection = .ok m)
      (h : (Provision.provision (m.plane network) c.location c.component c.service
        ⟨c.resourceGroup, c.environment⟩ s.wire).result = .ok ids) : Makes ids.toJson

/-- **Where a client error surfaces**: while the client is made, or from one of its calls. -/
inductive Surfaces (e : ClientError) : Prop where
  | connecting {c : BindingConfig} (hload : command.load files = .ok (.provision c))
      (h : ResourceManager.connect files c.connection = .error e)
  | calling {c : BindingConfig} {m : ResourceManager}
      (hload : command.load files = .ok (.provision c))
      (hclient : ResourceManager.connect files c.connection = .ok m)
      (h : Provision.FailedCall
        (Provision.provision (m.plane network).transcribing c.location c.component c.service
          ⟨c.resourceGroup, c.environment⟩ ⟨s.wire, []⟩).state.transcript e)

/-! ## 4. Runs -/

variable {operator files network s command}

theorem run_unconfigured {e : Layer.Error} (hload : command.load files = .error e) :
    (run operator files network s command).1.result = .error (.configuration e) := by
  rw [run, hload]

theorem run_of_ok {config : CommandLine.Config} (hload : command.load files = .ok config) :
    (run operator files network s command).1 =
      (runConfig operator files network s config).1 := by
  rw [run, hload]

/-- What a run shows first changes neither its result nor the state it leaves. -/
theorem announce_bind_run {τ ε α : Type} (config : Log.Shown) (f : Unit → Action τ ε α) (t : τ) :
    (announce config >>= f) t =
      ⟨(f () t).result, (f () t).state,
        ⟨.debug, "effective config: " ++ config.pretty, []⟩ :: (f () t).log⟩ := rfl

theorem run_install {c : InstallConfig} (hload : command.load files = .ok (.install c)) :
    (run operator files network s command).1.result =
      ((Installation.build operator c.request s.operator).result.mapError .release).map
        Installation.toJson := by
  have hbuild : (runInstall operator c s.operator).result =
      (Installation.build operator c.request s.operator).result.mapError .release := rfl
  rw [run_of_ok hload, runConfig, Report.ofOutcome, hbuild]

/-- A patch comes about for every extension that can be read. -/
theorem run_update {c : UpdateConfig} (hload : command.load files = .ok (.update c)) :
    (run operator files network s command).1.result =
      (readExtension files c.installed).map fun x => (Patch.ofRequest c.request x).toJson := by
  have hpatch : (runUpdate files c ()).result =
      (readExtension files c.installed).map (Patch.ofRequest c.request) := by
    rw [runUpdate, announce_bind_run]
    cases readExtension files c.installed with
    | error f => rfl
    | ok x => exact Patch.build_result c.request x ()
  rw [run_of_ok hload, runConfig, Report.ofOutcome, hpatch]
  cases readExtension files c.installed <;> rfl

theorem run_unconnected {c : BindingConfig} {e : ClientError}
    (hload : command.load files = .ok (.provision c))
    (h : ResourceManager.connect files c.connection = .error e) :
    (run operator files network s command).1.result = .error (.client e) := by
  rw [run_of_ok hload, runConfig, Report.ofOutcome, runProvision, announce_bind_run, h]
  rfl

/-- What is logged behind an action, and tells of its result, leaves the result as it is. -/
theorem bind_log_pure_result {τ ε α : Type} (x : Action τ ε α) (event : α → Log.Event) (t : τ) :
    ((x >>= fun a => Action.log (event a) >>= fun _ => pure a) t).result = (x t).result := by
  cases h : (x t).result with
  | ok a => simp [Action.bind_run_ok h]
  | error e => simp [Action.bind_run_error h]

theorem run_connected {c : BindingConfig} {m : ResourceManager}
    (hload : command.load files = .ok (.provision c))
    (hclient : ResourceManager.connect files c.connection = .ok m) :
    (run operator files network s command).1.result =
      ((Provision.provision (m.plane network) c.location c.component c.service
        ⟨c.resourceGroup, c.environment⟩ s.wire).result.mapError .provision).map
          Provisioned.toJson := by
  have hready : (runProvision files network c s.wire).result =
      (Provision.provision (m.plane network) c.location c.component c.service
        ⟨c.resourceGroup, c.environment⟩ s.wire).result.mapError .provision := by
    have hok : ((Action.ofExcept ((Except.ok m).mapError Failure.client) :
        Action Http.Wire Failure ResourceManager) s.wire).result = .ok m := rfl
    rw [runProvision, announce_bind_run, hclient, Action.bind_run_ok hok]
    exact bind_log_pure_result _ _ s.wire
  rw [run_of_ok hload, runConfig, Report.ofOutcome, hready]

variable (operator files network s command)

/-- **How a run can end**, wherever it stops. -/
inductive Ends : Except Failure Json → Prop where
  | unconfigured {e : Layer.Error} (hload : command.load files = .error e) :
      Ends (.error (.configuration e))
  | refused {c : InstallConfig} {e : Release.Error} (hload : command.load files = .ok (.install c))
      (h : (Installation.build operator c.request s.operator).result = .error e) :
      Ends (.error (.release e))
  | unread {c : UpdateConfig} {f : Failure} (hload : command.load files = .ok (.update c))
      (h : readExtension files c.installed = .error f) : Ends (.error f)
  | unconnected {c : BindingConfig} {e : ClientError}
      (hload : command.load files = .ok (.provision c))
      (h : ResourceManager.connect files c.connection = .error e) : Ends (.error (.client e))
  | unprovisioned {c : BindingConfig} {m : ResourceManager} {error : Provision.Error}
      (hload : command.load files = .ok (.provision c))
      (hclient : ResourceManager.connect files c.connection = .ok m)
      (h : (Provision.provision (m.plane network) c.location c.component c.service
        ⟨c.resourceGroup, c.environment⟩ s.wire).result = .error error) :
      Ends (.error (.provision error))
  | made {d : Json} (h : Makes operator files network s command d) : Ends (.ok d)

/-- **Every run ends in one of these ways.** -/
theorem run_ends :
    Ends operator files network s command (run operator files network s command).1.result := by
  cases hload : command.load files with
  | error e =>
    rw [run_unconfigured hload]
    exact .unconfigured hload
  | ok config =>
    cases config with
    | install c =>
      rw [run_install hload]
      cases h : (Installation.build operator c.request s.operator).result with
      | error e => exact .refused hload h
      | ok i => exact .made (.extension hload h)
    | update c =>
      rw [run_update hload]
      cases h : readExtension files c.installed with
      | error f => exact .unread hload h
      | ok x => exact .made (.patch hload h)
    | provision c =>
      cases hclient : ResourceManager.connect files c.connection with
      | error e =>
        rw [run_unconnected hload hclient]
        exact .unconnected hload hclient
      | ok m =>
        rw [run_connected hload hclient]
        cases h : (Provision.provision (m.plane network) c.location c.component c.service
          ⟨c.resourceGroup, c.environment⟩ s.wire).result with
        | error error => exact .unprovisioned hload hclient h
        | ok ids => exact .made (.ids hload hclient h)

variable {operator files network s command}

/-- **A run has a document exactly when the command makes it.** -/
theorem run_eq_ok_iff {d : Json} :
    (run operator files network s command).1.result = .ok d ↔
      Makes operator files network s command d := by
  constructor
  · intro h
    have hends := run_ends operator files network s command
    rw [h] at hends
    cases hends with
    | made hd => exact hd
  · intro h
    cases h with
    | extension hload h =>
      rw [run_install hload, h]
      rfl
    | patch hload h =>
      rw [run_update hload, h]
      rfl
    | ids hload hclient h =>
      rw [run_connected hload hclient, h]
      rfl

/-- A file that holds no extension is nobody's failed call. -/
theorem cause?_of_readExtension {path : String} {f : Failure}
    (h : readExtension files path = .error f) : f.cause? = none := by
  unfold readExtension at h
  split at h
  · cases h
    rfl
  · split at h
    · cases h
    · cases h
      rfl

/-- **A run fails because of a client error exactly when this surfaced.** -/
theorem caused_iff_surfaces {e : ClientError} :
    (∃ f, (run operator files network s command).1.result = .error f ∧ f.cause? = some e) ↔
      Surfaces files network s command e := by
  constructor
  · rintro ⟨f, hf, hcause⟩
    have hends := run_ends operator files network s command
    rw [hf] at hends
    cases hends with
    | unconfigured hload => cases hcause
    | refused hload h => cases hcause
    | unread hload h =>
      rw [cause?_of_readExtension h] at hcause
      cases hcause
    | unconnected hload h =>
      cases hcause
      exact .connecting hload h
    | unprovisioned hload hclient h =>
      exact .calling hload hclient ((Provision.failed_call_iff ..).mpr ⟨_, h, hcause⟩)
  · intro h
    cases h with
    | connecting hload h => exact ⟨.client e, run_unconnected hload h, rfl⟩
    | calling hload hclient h =>
      obtain ⟨error, herror, hcause⟩ := (Provision.failed_call_iff ..).mp h
      refine ⟨.provision error, ?_, hcause⟩
      rw [run_connected hload hclient, herror]
      rfl

/-! ## 5. Reports -/

variable (operator files network s command)

/-- **What is promised of the report of a run.** -/
structure Reported (r : Report) : Prop where
  /-- Zero and the one document that the command makes, or another code and nothing. -/
  agrees :
    (∃ d, Makes operator files network s command d ∧ r.exitCode = 0 ∧
      r.output = d.pretty ++ "\n" ∧ Json.read? r.output = some d) ∨
    ((∀ d, ¬ Makes operator files network s command d) ∧ r.exitCode ≠ 0 ∧ r.output = "")
  /-- A failure has a client error in it exactly when this surfaced. -/
  caused : ∀ e, (∃ f, r.result = .error f ∧ f.cause? = some e) ↔
    Surfaces files network s command e
  /-- Then the code is that of the client error, wherever it surfaced. -/
  code : ∀ e, Surfaces files network s command e → r.exitCode = e.exitCode.code

/-- What is made is a document of texts. -/
theorem Makes.textual {d : Json} (h : Makes operator files network s command d) : d.Textual := by
  cases h with
  | extension => exact Installation.textual _
  | patch => exact Patch.textual _
  | ids => exact Provisioned.textual _

/-- **Output and exit code agree**, for every command with whatever options, over whatever files,
    operator and network. -/
theorem run_is_reported :
    Reported operator files network s command (run operator files network s command).1 := by
  have hmakes : ∀ d, (run operator files network s command).1.result = .ok d ↔
      Makes operator files network s command d :=
    fun d => run_eq_ok_iff
  have hcaused : ∀ e,
      (∃ f, (run operator files network s command).1.result = .error f ∧ f.cause? = some e) ↔
        Surfaces files network s command e :=
    fun e => caused_iff_surfaces
  generalize (run operator files network s command).1 = r at hmakes hcaused ⊢
  refine ⟨?_, hcaused, fun e he => ?_⟩
  · cases h : r.result with
    | ok d =>
      have hd := (hmakes d).mp h
      have hout : r.output = d.pretty ++ "\n" := by rw [Report.output, h]
      refine .inl ⟨d, hd, by rw [Report.exitCode, h], hout, ?_⟩
      rw [hout, Json.read?_pretty (hd.textual ..).integral]
    | error f =>
      refine .inr ⟨fun d hd => ?_, ?_, by rw [Report.output, h]⟩
      · rw [(hmakes d).mpr hd] at h
        cases h
      · rw [Report.exitCode, h]
        exact f.exitCode.code_ne_zero
  · obtain ⟨f, hf, hcause⟩ := (hcaused e).mpr he
    rw [Report.exitCode, hf]
    exact congrArg ExitCode.code (Failure.exitCode_of_cause? hcause)

end Results

/-- A token file that is missing and an environment that is: the client error surfaces in one run
    while the client is made, in the other from the creation of the service, with the same code. -/
theorem run_is_reported_invalid_config :
    let files : Files := fun _ => .error .missing
    let command (token : Token) : Command :=
      .provision ⟨none,
        { component := some .state, service := some .redis, resourceGroup := some "rg"
          environment := some "dev"
          connection := { subscriptionId := some ⟨0⟩, token := some token } }⟩
    let s : Surroundings Unit := ⟨(), ⟨[.complete 404 [], .complete 404 []], []⟩⟩
    let code (token : Token) : Nat :=
      (run .nobody files ⟨fun _ => true⟩ s (command token)).1.exitCode
    (∃ e, Surfaces files ⟨fun _ => true⟩ s (command (.file "token")) e ∧
      e.exitCode = .config ∧ code (.file "token") = e.exitCode.code) ∧
    ∃ e, Surfaces files ⟨fun _ => true⟩ s (command (.literal "secret")) e ∧
      e.exitCode = .config ∧ code (.literal "secret") = e.exitCode.code := by
  intro files command s code
  have hreported : ∀ token, Reported .nobody files ⟨fun _ => true⟩ s (command token)
      (run .nobody files ⟨fun _ => true⟩ s (command token)).1 :=
    fun token => run_is_reported .nobody files ⟨fun _ => true⟩ s (command token)
  have hfile : Surfaces files ⟨fun _ => true⟩ s (command (.file "token"))
      (.invalidConfig ("failed to read token file \"token\": " ++ FileError.missing.message)) :=
    .connecting rfl rfl
  have hcall : Surfaces files ⟨fun _ => true⟩ s (command (.literal "secret"))
      (.invalidConfig "managed environment 'dev' not found in resource group 'rg'") :=
    .calling rfl rfl ⟨.createService "rg" "dev" _ _, .tail _ (.head _)⟩
  exact ⟨⟨_, hfile, rfl, (hreported _).code _ hfile⟩, ⟨_, hcall, rfl, (hreported _).code _ hcall⟩⟩

end DaprHosting
