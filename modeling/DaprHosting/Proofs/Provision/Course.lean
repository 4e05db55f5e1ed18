import DaprHosting.Provision

/-!
# How a run of provisioning goes

Both steps of provisioning have one shape: look a resource up, and create it when the lookup denies
it. `Ensured` says once, for any two calls, every way this can go, with the result and the state
that each way leaves; `ensureService_ensured` and `ensureComponent_ensured` place the two steps in
it. `Course` joins the steps: by `provision_course` every run, over any control plane, is refused,
or stops with its service, or goes on to its component.

Whatever is proved of runs is proved from `provision_course`; no later proof opens `provision`.
-/

namespace DaprHosting.Provision

variable {σ : Type}

/-! ## 1. One step -/

/-- What a creation call comes to: an empty answer is an error as well. -/
def creationResult (failed : CreationFault → Error) :
    Except ClientError (Option Resource) → Except Error Resource
  | .ok (some r) => .ok r
  | .ok none => .error (failed .emptyResult)
  | .error e => .error (failed (.client e))

theorem creationResult_eq_ok_iff {failed : CreationFault → Error}
    {a : Except ClientError (Option Resource)} {r : Resource} :
    creationResult failed a = .ok r ↔ a = .ok (some r) := by
  rcases a with e | _ | r' <;> simp [creationResult]

section Step

variable (look : Action σ ClientError Lookup) (make : Action σ ClientError (Option Resource))
  (lost : ClientError → Error) (failed : CreationFault → Error)

/-- **How looking a resource up, and creating it when it is absent, can go** from a state: the
    result, and the state that the calls made leave. -/
inductive Ensured (s : σ) : Except Error Resource → σ → Prop where
  | lookupFailed {e : ClientError} (hl : (look s).result = .error e) :
      Ensured s (.error (lost e)) (look s).state
  | found {r : Resource} (hl : (look s).result = .ok (.found r)) :
      Ensured s (.ok r) (look s).state
  | absent (hl : (look s).result = .ok .absent) :
      Ensured s (creationResult failed (make (look s).state).result) (make (look s).state).state

theorem created_run (s : σ) :
    (created failed make s).result = creationResult failed (make s).result ∧
      (created failed make s).state = (make s).state := by
  unfold created
  rw [Action.bind_run, Action.mapError_run]
  rcases h : (make s).result with e | _ | r <;> exact ⟨rfl, rfl⟩

end Step

/-- The service step over a control plane. -/
abbrev ServiceEnsured (plane : ControlPlane σ) (location : Option String) (service : ServiceKind)
    (place : Place) : σ → Except Error Resource → σ → Prop :=
  Ensured (plane.showService place.group service.serviceName)
    (plane.createService place.group place.environment service.serviceName
      ⟨location, plane.environmentId place.group place.environment, service⟩)
    (.lookup .service service.serviceName) (.serviceCreation service.serviceName service)

/-- The component step over a control plane, for a service with the id. -/
abbrev ComponentEnsured (plane : ControlPlane σ) (component : ComponentKind)
    (service : ServiceKind) (serviceId : String) (place : Place) :
    σ → Except Error Resource → σ → Prop :=
  Ensured (plane.showComponent place.group place.environment (component.componentName service))
    (plane.createComponent place.group place.environment (component.componentName service)
      (.of component service ⟨service.serviceName, serviceId⟩))
    (.lookup .component (component.componentName service))
    (.componentCreation (component.componentName service) (component.daprType service))

theorem mapError_ok {ε δ α : Type} (f : ε → δ) (a : α) : Except.mapError f (.ok a) = .ok a := rfl

theorem ensureService_ensured (plane : ControlPlane σ) (location : Option String)
    (service : ServiceKind) (place : Place) (s : σ) :
    ServiceEnsured plane location service place s
      (ensureService plane location service place s).result
      (ensureService plane location service place s).state := by
  unfold ensureService
  simp only [Action.debug, Action.warn, Action.log_bind_run]
  rw [Action.bind_run, Action.mapError_run]
  rcases hl : (plane.showService place.group service.serviceName s).result with e | r | _
  · exact .lookupFailed hl
  · exact .found hl
  · simp only [mapError_ok, Action.log_bind_run]
    -- the event behind the creation keeps the last call from being the last action
    rw [(Action.bind_log_pure_run _ _ _).1, (Action.bind_log_pure_run _ _ _).2,
      (created_run _ _ _).1, (created_run _ _ _).2]
    exact .absent hl

/-- **Kinds that do not fit are refused by the component step itself**: it makes no call and logs
    nothing. -/
theorem ensureComponent_refused (plane : ControlPlane σ) {component : ComponentKind}
    {service : ServiceKind} (hc : component.supports service = false) (serviceId : String)
    (place : Place) (s : σ) :
    ensureComponent plane component service serviceId place s =
      ⟨.error (.unsupportedBinding component service), s, []⟩ := by
  rw [ensureComponent, if_neg (Bool.eq_false_iff.mp hc), Action.fail_run]

theorem ensureComponent_ensured (plane : ControlPlane σ) {component : ComponentKind}
    {service : ServiceKind} (hc : component.supports service = true) (serviceId : String)
    (place : Place) (s : σ) :
    ComponentEnsured plane component service serviceId place s
      (ensureComponent plane component service serviceId place s).result
      (ensureComponent plane component service serviceId place s).state := by
  unfold ensureComponent
  rw [if_pos hc]
  simp only [Action.debug, Action.warn, Action.log_bind_run]
  rw [Action.bind_run, Action.mapError_run]
  rcases hl : (plane.showComponent place.group place.environment
      (component.componentName service) s).result with e | r | _
  · exact .lookupFailed hl
  · exact .found hl
  · simp only [mapError_ok, Action.log_bind_run]
    rw [(created_run _ _ _).1, (created_run _ _ _).2]
    exact .absent hl

/-! ## 2. Both steps -/

/-- The id of what a step ends with; a resource without one is an error. -/
def identified (missing : Error) (result : Except Error Resource) : Except Error String :=
  result.bind fun r => r.effectiveId.elim (.error missing) .ok

theorem identified_eq_ok_iff {missing : Error} {result : Except Error Resource} {id : String} :
    identified missing result = .ok id ↔ ∃ r, result = .ok r ∧ r.effectiveId = some id := by
  cases result with
  | error e => simp [identified, Except.bind]
  | ok r => cases h : r.effectiveId <;> simp [identified, Except.bind, h]

theorem identified_eq_error_iff {missing : Error} {result : Except Error Resource} {e : Error} :
    identified missing result = .error e ↔
      result = .error e ∨ ∃ r, result = .ok r ∧ r.effectiveId = none ∧ e = missing := by
  cases result with
  | error e' => simp [identified, Except.bind]
  | ok r => cases h : r.effectiveId <;> simp [identified, Except.bind, h, eq_comm]

/-- **How a run can go**: its result, and the state it leaves. -/
inductive Course (plane : ControlPlane σ) (location : Option String) (component : ComponentKind)
    (service : ServiceKind) (place : Place) (s : σ) : Except Error Provisioned → σ → Prop where
  | refused (hc : component.supports service = false) :
      Course plane location component service place s
        (.error (.unsupportedBinding component service)) s
  | stopped {res : Except Error Resource} {s₁ : σ} {e : Error}
      (hc : component.supports service = true)
      (hs : ServiceEnsured plane location service place s res s₁)
      (he : identified (.missingServiceId service.serviceName) res = .error e) :
      Course plane location component service place s (.error e) s₁
  | wentOn {res res' : Except Error Resource} {s₁ s₂ : σ} {serviceId : String}
      (hc : component.supports service = true)
      (hs : ServiceEnsured plane location service place s res s₁)
      (hi : identified (.missingServiceId service.serviceName) res = .ok serviceId)
      (hk : ComponentEnsured plane component service serviceId place s₁ res' s₂) :
      Course plane location component service place s
        ((identified (.missingComponentId (component.componentName service)) res').map
          (⟨serviceId, ·⟩)) s₂

section Require

variable {missing : Error} {x : Action σ Error Resource} {α : Type} {f : String → Action σ Error α}
  {s : σ}

theorem bind_require_of_ok {id : String} (h : identified missing (x s).result = .ok id) :
    ((x >>= fun r => Action.require missing r.effectiveId >>= f) s).result =
        (f id (x s).state).result ∧
      ((x >>= fun r => Action.require missing r.effectiveId >>= f) s).state =
        (f id (x s).state).state := by
  obtain ⟨r, hr, hid⟩ := identified_eq_ok_iff.mp h
  rw [Action.bind_run_ok hr, hid]
  exact ⟨rfl, rfl⟩

theorem bind_require_of_error {e : Error} (h : identified missing (x s).result = .error e) :
    ((x >>= fun r => Action.require missing r.effectiveId >>= f) s).result = .error e ∧
      ((x >>= fun r => Action.require missing r.effectiveId >>= f) s).state = (x s).state := by
  rcases identified_eq_error_iff.mp h with hr | ⟨r, hr, hid, rfl⟩
  · rw [Action.bind_run_error hr]
    exact ⟨rfl, rfl⟩
  · rw [Action.bind_run_ok hr, hid]
    exact ⟨rfl, rfl⟩

end Require

/-- **Every run goes one of these ways.** -/
theorem provision_course (plane : ControlPlane σ) (location : Option String)
    (component : ComponentKind) (service : ServiceKind) (place : Place) (s : σ) :
    Course plane location component service place s
      (provision plane location component service place s).result
      (provision plane location component service place s).state := by
  unfold provision
  by_cases hc : component.supports service = true
  · rw [if_pos hc]
    have hs := ensureService_ensured plane location service place s
    cases hi : identified (.missingServiceId service.serviceName)
        (ensureService plane location service place s).result with
    | error e =>
      rw [(bind_require_of_error hi).1, (bind_require_of_error hi).2]
      exact .stopped hc hs hi
    | ok serviceId =>
      rw [(bind_require_of_ok hi).1, (bind_require_of_ok hi).2]
      have hk := ensureComponent_ensured plane hc serviceId place
        (ensureService plane location service place s).state
      have h := Course.wentOn hc hs hi hk
      cases hj : identified (.missingComponentId (component.componentName service))
          (ensureComponent plane component service serviceId place
            (ensureService plane location service place s).state).result with
      | error e =>
        rw [(bind_require_of_error hj).1, (bind_require_of_error hj).2]
        rwa [hj] at h
      | ok componentId =>
        rw [(bind_require_of_ok hj).1, (bind_require_of_ok hj).2]
        rwa [hj] at h
  · rw [if_neg hc]
    exact .refused (by simpa using hc)

end DaprHosting.Provision
