import DaprHosting.Proofs.Redaction.Layers
import DaprHosting.Run

/-!
# Submitting without protected values

What is made of a configuration hands the protected settings on and does nothing else with them. It
is shown without them (`InstallConfig.shown_redacted`), what is built commutes with redaction
(`runInstall_redacted`, `runUpdate_redacted`), and so does its document.
-/

namespace DaprHosting

variable {σ ε δ α β γ : Type}

/-! ## 1. Outcomes -/

/-- The outcome with its result seen through a function. -/
def Outcome.through (see : β → γ) (o : Outcome σ ε β) : Outcome σ ε γ where
  result := o.result.map see
  state := o.state
  log := o.log

/-- What goes on alike but for what is seen of it does so behind any action. -/
theorem Action.bind_through {see : β → γ} {x : Action σ ε α} {f : α → Action σ ε β}
    {f' : α → Action σ ε γ} (h : ∀ a s, f' a s = (f a s).through see) (s : σ) :
    (x >>= f') s = ((x >>= f) s).through see := by
  cases hx : (x s).result with
  | error e =>
    rw [bind_run_error hx, bind_run_error hx]
    rfl
  | ok a =>
    rw [bind_run_ok hx, bind_run_ok hx, h]
    rfl

/-- So does what is told of it in other words. -/
theorem Action.mapError_through {see : β → γ} {x : Action σ ε β} {x' : Action σ ε γ} {s : σ}
    (h : x' s = (x s).through see) (f : ε → δ) :
    x'.mapError f s = (x.mapError f s).through see := by
  simp only [mapError_run, h, Outcome.through]
  cases (x s).result <;> rfl

/-! ## 2. What is shown -/

/-- A map of secrets is shown by its names alone. -/
theorem Log.Shown.ofMap_secret_redacted (m : OrderedMap String) :
    ofMap secret m.redacted = ofMap secret m := by
  simp only [ofMap, OrderedMap.redacted, List.map_map]
  rfl

theorem protectedShown_redacted (m : OrderedMap String) :
    protectedShown m.redacted = protectedShown m :=
  congrArg (Log.Shown.wrapped "ProtectedSettings") (Log.Shown.ofMap_secret_redacted m)

/-- **A configuration is shown without its protected values.** -/
theorem InstallConfig.shown_redacted (c : InstallConfig) : c.redacted.shown = c.shown := by
  simp only [shown, redacted, InstallRequest.shown, InstallRequest.redacted,
    protectedShown_redacted]

theorem UpdateConfig.shown_redacted (c : UpdateConfig) : c.redacted.shown = c.shown := by
  have hprotected : Log.Shown.optional protectedShown
      (c.request.protectedSettings.map OrderedMap.redacted) =
        .optional protectedShown c.request.protectedSettings := by
    cases c.request.protectedSettings with
    | none => rfl
    | some m => exact congrArg (Log.Shown.wrapped "Some") (protectedShown_redacted m)
  simp only [shown, redacted, UpdateRequest.shown, UpdateRequest.redacted, hprotected]

/-- The connection with another token. -/
def BindingConfig.withToken (c : BindingConfig) (token : Token) : BindingConfig :=
  { c with connection := { c.connection with token := token } }

/-- **A token that is given directly is not shown**, whatever it is. -/
theorem BindingConfig.shown_withToken (c : BindingConfig) (secret secret' : String) :
    (c.withToken (.literal secret)).shown = (c.withToken (.literal secret')).shown := rfl

/-! ## 3. What is built -/

/-- The installation without the protected values. -/
def Installation.redacted (i : Installation) : Installation :=
  { i with extension :=
    { i.extension with protectedSettings := i.extension.protectedSettings.redacted } }

/-- The patch without the protected values. -/
def Patch.redacted (p : Patch) : Patch :=
  { p with protectedSettings := p.protectedSettings.map OrderedMap.redacted }

/-- **A request without protected values is built as the request is**: it asks, logs and fails
    alike, and leaves the installation without them. -/
theorem Installation.build_redacted (operator : Operator σ) (request : InstallRequest) (s : σ) :
    build operator request.redacted s = (build operator request s).through redacted := by
  unfold build
  by_cases hscope : request.scope = .namespaced
  · have hscope' : request.redacted.scope = .namespaced := hscope
    rw [if_pos hscope, if_pos hscope']
    rfl
  · have hscope' : ¬ request.redacted.scope = .namespaced := hscope
    rw [if_neg hscope, if_neg hscope']
    refine Action.bind_through (fun release s => ?_) s
    have hsettings : request.redacted.settings = request.settings := rfl
    rw [hsettings]
    -- the warning that may come first is only logged
    cases release.alreadyInstalled && request.settings.haEnabled == some true <;> rfl

/-- So is a change. -/
theorem Patch.build_redacted (request : UpdateRequest) (installed : Extension) (s : σ) :
    (build request.redacted installed : Action σ ε Patch) s =
      ((build request installed : Action σ ε Patch) s).through redacted := by
  have hversion : request.redacted.version = request.version := rfl
  unfold build
  rw [hversion]
  cases goesBack request.version installed.version <;> rfl

/-- **A configuration without protected values runs as the configuration does**, from the event that
    shows it to the installation that is built. -/
theorem runInstall_redacted (operator : Operator σ) (c : InstallConfig) (s : σ) :
    runInstall operator c.redacted s =
      (runInstall operator c s).through Installation.redacted := by
  unfold runInstall
  rw [c.shown_redacted]
  refine Action.bind_through (fun _ s => ?_) s
  exact Action.mapError_through (Installation.build_redacted operator c.request s) Failure.release

/-- So does that of a change, over the same files. -/
theorem runUpdate_redacted (files : Files) (c : UpdateConfig) (s : Unit) :
    runUpdate files c.redacted s = (runUpdate files c s).through Patch.redacted := by
  have hinstalled : c.redacted.installed = c.installed := rfl
  unfold runUpdate
  rw [c.shown_redacted, hinstalled]
  refine Action.bind_through (fun _ s => ?_) s
  exact Action.bind_through (fun x s => Patch.build_redacted c.request x s) s

/-! ## 4. Documents -/

namespace Json

/-- Members with what stands under a name changed. -/
def changeAt (name : String) (change : Json → Json) (ms : List (String × Json)) :
    List (String × Json) :=
  ms.map fun m => (m.1, if m.1 = name then change m.2 else m.2)

/-- The document with what stands under a name changed. -/
def under (name : String) (change : Json → Json) : Json → Json
  | .object ms => .object (changeAt name change ms)
  | j => j

/-- An object without its values. -/
def blanked : Json → Json
  | .object ms => .object (ms.map fun m => (m.1, .string ""))
  | j => j

/-- The name of the protected settings in a document. -/
def protectedName : String := "configurationProtectedSettings"

/-- The document without the protected values, be it a patch or an extension to create. -/
def redacted (j : Json) : Json :=
  (j.under protectedName blanked).under "extension" (under protectedName blanked)

theorem blanked_ofStrings (m : OrderedMap String) :
    (ofStrings m.entries).blanked = ofStrings m.redacted.entries := by
  simp only [blanked, ofStrings, OrderedMap.redacted, List.map_map]
  rfl

theorem changeAt_append (name : String) (change : Json → Json) (ms ms' : List (String × Json)) :
    changeAt name change (ms ++ ms') = changeAt name change ms ++ changeAt name change ms' :=
  List.map_append

/-- A member that may be missing is changed when it stands under the name. -/
theorem changeAt_member? (name other : String) (change : Json → Json) {τ : Type} (write : τ → Json)
    (o : Option τ) :
    changeAt name change (member? other write o) =
      member? other (fun a => if other = name then change (write a) else write a) o := by
  cases o <;> rfl

end Json

theorem Extension.toJson_redacted (x : Extension) :
    x.toJson.under Json.protectedName Json.blanked =
      ({ x with protectedSettings := x.protectedSettings.redacted } : Extension).toJson := by
  simp [toJson, Json.under, Json.changeAt, Json.protectedName, Json.blanked_ofStrings]

/-- **The document of an installation has the protected values in one place**: without them it is
    that of the installation without them. -/
theorem Installation.toJson_redacted (i : Installation) :
    i.toJson.redacted = i.redacted.toJson := by
  simp [toJson, Json.redacted, Json.under, Json.changeAt, Json.protectedName, redacted,
    ← Extension.toJson_redacted]

/-- So has that of a patch. -/
theorem Patch.toJson_redacted (p : Patch) : p.toJson.redacted = p.redacted.toJson := by
  have hprotected : Json.member? Json.protectedName
        (fun m : OrderedMap String => (Json.ofStrings m.entries).blanked) p.protectedSettings =
      Json.member? Json.protectedName (fun m => Json.ofStrings m.entries)
        (p.protectedSettings.map OrderedMap.redacted) := by
    cases p.protectedSettings with
    | none => rfl
    | some m => simp only [Option.map_some, Json.member?, Json.blanked_ofStrings]
  -- no other member stands under that name, and none is an extension
  simpa [toJson, Json.redacted, Json.under, Json.changeAt_append, Json.changeAt_member?,
    Json.protectedName, redacted] using hprotected

theorem Provisioned.toJson_redacted (ids : Provisioned) : ids.toJson.redacted = ids.toJson := by
  simp [toJson, Json.redacted, Json.under, Json.changeAt, Json.protectedName]

end DaprHosting
