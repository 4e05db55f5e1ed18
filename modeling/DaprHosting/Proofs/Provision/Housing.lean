import DaprHosting.Proofs.Memory.Order

/-!
# Where services are housed

A service is looked up by its resource group and its name, and its name follows from its kind. The
environment is asked for only in the request that creates it. So a run of provisioning that comes
to a service houses it where the service was first asked for: in the environment of a goal of the
run with the same kind and the same group (`Housed`), which need not be the goal that comes to it.
Where all goals of a kind in a group ask for one environment, that is the environment they get, by
`service_in_requested_environment`.

Nothing more is assumed of the control plane than that it keeps what it is made to create (`Keeps`).
-/

namespace DaprHosting.Provision

open Memory (Goal)

variable {σ : Type}

/-! ## 1. Control planes that keep services -/

/-- What stands under a group and a name: the id of the service, and the payload of the request that
    created it. -/
abbrev Holdings : Type := String → String → Option (Option String × ServicePayload)

/-- **The control plane keeps what it is made to create.** A creation concerns one group and one
    name; where its answer is lost, the service may be there or not. -/
structure Keeps (plane : ControlPlane σ) (held : σ → Holdings) : Prop where
  found : ∀ {group name s r}, (plane.showService group name s).result = .ok (.found r) →
    ∃ payload, held s group name = some (r.effectiveId, payload)
  showService : ∀ group name s, held (plane.showService group name s).state = held s
  made : ∀ {group environment name payload s r},
    (plane.createService group environment name payload s).result = .ok (some r) →
      held (plane.createService group environment name payload s).state group name =
        some (r.effectiveId, payload)
  createService : ∀ group environment name payload s other otherName,
    let left := held (plane.createService group environment name payload s).state
    left other otherName = held s other otherName ∨
      other = group ∧ otherName = name ∧ ∃ id, left group name = some (id, payload)
  showComponent : ∀ group environment name s,
    held (plane.showComponent group environment name s).state = held s
  createComponent : ∀ group environment name payload s,
    held (plane.createComponent group environment name payload s).state = held s

/-- A control plane that keeps services by group and name, and no components. -/
def ledger : ControlPlane (String → String → Option (Resource × ServicePayload)) where
  environmentId group environment := group ++ "/" ++ environment
  showService group name := fun s =>
    ⟨.ok ((s group name).elim .absent fun service => .found service.1), s, []⟩
  createService group _ name payload := fun s =>
    let made := Resource.withId (group ++ "/" ++ name)
    ⟨.ok (some made), fun other otherName =>
      if other = group ∧ otherName = name then some (made, payload) else s other otherName, []⟩
  showComponent _ _ _ := fun s => ⟨.ok .absent, s, []⟩
  createComponent _ environment name _ := fun s =>
    ⟨.ok (some (.withId (environment ++ "/" ++ name))), s, []⟩

/-- What the ledger holds. -/
def ledgerHoldings (s : String → String → Option (Resource × ServicePayload)) : Holdings :=
  fun group name => (s group name).map fun service => (service.1.effectiveId, service.2)

theorem ledger_keeps : Keeps ledger ledgerHoldings where
  found {group name s r} h := by
    cases hs : s group name with
    | none => simp [ledger, hs] at h
    | some service =>
      simp [ledger, hs] at h
      exact ⟨service.2, by rw [ledgerHoldings, hs, ← h]; rfl⟩
  showService _ _ _ := rfl
  made {group environment name payload s r} h := by
    cases h
    simp [ledgerHoldings, ledger]
  createService group environment name payload s other otherName := by
    by_cases h : other = group ∧ otherName = name
    · exact .inr ⟨h.1, h.2, _, by simp [ledgerHoldings, ledger]; rfl⟩
    · exact .inl (by simp [ledgerHoldings, ledger, h])
  showComponent _ _ _ _ := rfl
  createComponent _ _ _ _ _ := rfl

/-! ## 2. Goals in a row -/

/-- The attempt on a goal, with its calls on record. -/
def attempt (plane : ControlPlane σ) (g : Goal) : Action (Recorded σ) Error Provisioned :=
  provision plane.recording g.location g.component g.service g.place

/-- The state after attempts in a row. -/
def attemptAll (plane : ControlPlane σ) : List Goal → Recorded σ → Recorded σ
  | [], s => s
  | g :: gs, s => attemptAll plane gs (attempt plane g s).state

/-- The payload that a goal creates its service with. -/
def servicePayload (plane : ControlPlane σ) (g : Goal) : ServicePayload :=
  ⟨g.location, plane.environmentId g.place.group g.place.environment, g.service⟩

/-- The call that a goal creates its service with. -/
def serviceCall (plane : ControlPlane σ) (g : Goal) : Call :=
  .createService g.place.group g.place.environment g.service.serviceName (servicePayload plane g)

/-- **Every service is housed where some goal asked for it**, by a call on record. -/
def Housed (plane : ControlPlane σ) (held : σ → Holdings) (goals : List Goal) (s : Recorded σ) :
    Prop :=
  ∀ group kind id payload, held s.state group (ServiceKind.serviceName kind) = some (id, payload) →
    ∃ g ∈ goals, g.service = kind ∧ g.place.group = group ∧ payload = servicePayload plane g ∧
      serviceCall plane g ∈ s.calls

theorem serviceName_inj {kind kind' : ServiceKind} (h : kind.serviceName = kind'.serviceName) :
    kind = kind' := by
  revert h
  cases kind <;> cases kind' <;> decide

section Housing

variable {plane : ControlPlane σ} {held : σ → Holdings} {goals goals' : List Goal}
  {s s' : Recorded σ}

/-- What is housed stays housed while nothing new is held. -/
theorem Housed.mono (h : Housed plane held goals s) (hgoals : goals ⊆ goals')
    (hheld : held s'.state = held s.state) (hcalls : s.calls ⊆ s'.calls) :
    Housed plane held goals' s' := by
  intro group kind id payload hhold
  rw [hheld] at hhold
  obtain ⟨g, hg, hkind, hgroup, hpayload, hcall⟩ := h group kind id payload hhold
  exact ⟨g, hgoals hg, hkind, hgroup, hpayload, hcalls hcall⟩

/-! ## 3. One goal -/

/-- What the service step does: every service stays housed, and one that it ends with is held. -/
theorem housed_of_serviceEnsured (hkeeps : Keeps plane held) (h : Housed plane held goals s)
    (g : Goal) {res : Except Error Resource}
    (hstep : ServiceEnsured plane.recording g.location g.service g.place s res s') :
    Housed plane held (goals ++ [g]) s' ∧
      ∀ r, res = .ok r →
        ∃ payload, held s'.state g.place.group g.service.serviceName =
          some (r.effectiveId, payload) := by
  have hgoals : goals ⊆ goals ++ [g] := List.subset_append_left ..
  cases hstep with
  | lookupFailed hl =>
    refine ⟨h.mono hgoals (hkeeps.showService ..) (List.subset_append_left ..), ?_⟩
    exact fun r hr => nomatch hr
  | found hl =>
    refine ⟨h.mono hgoals (hkeeps.showService ..) (List.subset_append_left ..), fun r hr => ?_⟩
    cases hr
    obtain ⟨payload, hheld⟩ := hkeeps.found hl
    exact ⟨payload, (congrFun (congrFun (hkeeps.showService ..) _) _).trans hheld⟩
  | absent hl =>
    refine ⟨?_, fun r hr => ?_⟩
    · intro group kind id payload hheld
      have hlooked := hkeeps.showService g.place.group g.service.serviceName s.state
      rcases hkeeps.createService g.place.group g.place.environment g.service.serviceName
          (servicePayload plane g) (plane.showService g.place.group g.service.serviceName
            s.state).state group kind.serviceName with hsame | ⟨hgroup, hname, made, hmade⟩
      · -- the creation concerns another service
        rw [hlooked] at hsame
        obtain ⟨g', hg', hkind, hgroup, hpayload, hcall⟩ :=
          h group kind id payload (hsame ▸ hheld)
        refine ⟨g', hgoals hg', hkind, hgroup, hpayload, ?_⟩
        exact List.mem_append_left _ (List.mem_append_left _ hcall)
      · -- the service is the one that this goal creates
        subst hgroup
        obtain rfl := serviceName_inj hname
        cases hheld.symm.trans hmade
        refine ⟨g, List.mem_append_right _ (List.mem_singleton_self g), rfl, rfl, rfl, ?_⟩
        exact List.mem_append_right _ (List.mem_singleton_self _)
    · exact ⟨_, hkeeps.made (creationResult_eq_ok_iff.mp hr)⟩

theorem held_of_componentEnsured (hkeeps : Keeps plane held) {component : ComponentKind}
    {service : ServiceKind} {serviceId : String} {place : Place} {res : Except Error Resource}
    (hstep : ComponentEnsured plane.recording component service serviceId place s res s') :
    held s'.state = held s.state ∧ s.calls ⊆ s'.calls := by
  cases hstep with
  | lookupFailed hl => exact ⟨hkeeps.showComponent .., List.subset_append_left ..⟩
  | found hl => exact ⟨hkeeps.showComponent .., List.subset_append_left ..⟩
  | absent hl =>
    refine ⟨(hkeeps.createComponent ..).trans (hkeeps.showComponent ..), ?_⟩
    exact fun c hc => List.mem_append_left _ (List.mem_append_left _ hc)

/-- **One goal**: every service stays housed, and the one that it comes to is held. -/
theorem housed_attempt (hkeeps : Keeps plane held) (h : Housed plane held goals s) (g : Goal) :
    Housed plane held (goals ++ [g]) (attempt plane g s).state ∧
      ∀ ids, (attempt plane g s).result = .ok ids →
        ∃ payload, held (attempt plane g s).state.state g.place.group g.service.serviceName =
          some (some ids.serviceId, payload) := by
  have hcourse := provision_course plane.recording g.location g.component g.service g.place s
  unfold attempt
  generalize (provision plane.recording g.location g.component g.service g.place s).result = out,
    (provision plane.recording g.location g.component g.service g.place s).state = left
    at hcourse ⊢
  cases hcourse with
  | refused hc =>
    refine ⟨h.mono (List.subset_append_left ..) rfl (List.Subset.refl _), ?_⟩
    exact fun ids hids => nomatch hids
  | stopped hc hs he =>
    exact ⟨(housed_of_serviceEnsured hkeeps h g hs).1, fun ids hids => nomatch hids⟩
  | @wentOn res res' s₁ _ serviceId hc hs hi hk =>
    obtain ⟨hhoused, hheld⟩ := housed_of_serviceEnsured hkeeps h g hs
    obtain ⟨hsame, hcalls⟩ := held_of_componentEnsured hkeeps hk
    refine ⟨hhoused.mono (List.Subset.refl _) hsame hcalls, fun ids hids => ?_⟩
    obtain ⟨r, hr, hid⟩ := identified_eq_ok_iff.mp hi
    obtain ⟨payload, hpayload⟩ := hheld r hr
    rw [hid, ← hsame] at hpayload
    have hservice : ids.serviceId = serviceId := by
      cases hres : identified (.missingComponentId (g.component.componentName g.service)) res' with
      | error e =>
        rw [hres] at hids
        cases hids
      | ok componentId =>
        rw [hres] at hids
        cases hids
        rfl
    exact ⟨payload, by rw [hservice]; exact hpayload⟩

/-! ## 4. Goals in a row -/

/-- **Any goals**: every service is housed where one of them asked for it. -/
theorem housed_attemptAll (hkeeps : Keeps plane held) (h : Housed plane held goals s)
    (more : List Goal) : Housed plane held (goals ++ more) (attemptAll plane more s) := by
  induction more generalizing goals s with
  | nil =>
    rw [List.append_nil]
    exact h
  | cons g gs ih =>
    rw [List.append_cons]
    exact ih (housed_attempt hkeeps h g).1

theorem housed_of_none {s : σ}
    (h : ∀ group kind, held s group (ServiceKind.serviceName kind) = none) :
    Housed plane held [] ⟨s, []⟩ := by
  intro group kind id payload hheld
  rw [h group kind] at hheld
  cases hheld

end Housing

/-- **A service is created in the environment that is asked for**, as long as no goal before asked
    for one of the same kind in the same group and another environment: the id that a goal comes to
    is that of a service which was created, by a call on record, with the id of that environment. -/
theorem service_in_requested_environment {plane : ControlPlane σ} {held : σ → Holdings}
    (hkeeps : Keeps plane held) {s : σ}
    (hnone : ∀ group kind, held s group (ServiceKind.serviceName kind) = none)
    (before : List Goal) (goal : Goal)
    (hsame : ∀ g ∈ before, g.service = goal.service → g.place.group = goal.place.group →
      g.place.environment = goal.place.environment) {ids : Provisioned}
    (hids : (attempt plane goal (attemptAll plane before ⟨s, []⟩)).result = .ok ids) :
    let left := (attempt plane goal (attemptAll plane before ⟨s, []⟩)).state
    ∃ payload, held left.state goal.place.group goal.service.serviceName =
        some (some ids.serviceId, payload) ∧
      payload.environmentId = plane.environmentId goal.place.group goal.place.environment ∧
      .createService goal.place.group goal.place.environment goal.service.serviceName payload ∈
        left.calls := by
  intro left
  have hbefore := housed_attemptAll hkeeps (housed_of_none hnone) before
  obtain ⟨hhoused, hheld⟩ := housed_attempt hkeeps hbefore goal
  obtain ⟨payload, hpayload⟩ := hheld ids hids
  obtain ⟨g, hg, hkind, hgroup, rfl, hcall⟩ := hhoused _ _ _ _ hpayload
  have henvironment : g.place.environment = goal.place.environment := by
    rcases List.mem_append.mp hg with hg | hg
    · exact hsame g hg hkind hgroup
    · rw [List.mem_singleton.mp hg]
  rw [serviceCall, hkind, hgroup, henvironment] at hcall
  refine ⟨servicePayload plane g, hpayload, ?_, hcall⟩
  rw [servicePayload, hgroup, henvironment]

/-- Two goals of one kind in one group. -/
def twoEnvironments : Goal × Goal :=
  (⟨none, .state, .redis, ⟨"rg", "dev"⟩⟩, ⟨none, .state, .redis, ⟨"rg", "prod"⟩⟩)

/-- Where two goals ask for one environment, the second comes to the service that was created in
    it. -/
theorem service_in_shared_environment :
    let again : Goal := { twoEnvironments.1 with component := .pubsub }
    let s := attemptAll ledger [twoEnvironments.1] ⟨fun _ _ => none, []⟩
    let ids : Provisioned := ⟨"rg/dapr-redis", "dev/pubsub-redis"⟩
    (attempt ledger again s).result = .ok ids ∧
      ∃ payload, ledgerHoldings (attempt ledger again s).state.state "rg" "dapr-redis" =
          some (some ids.serviceId, payload) ∧
        payload.environmentId = "rg/dev" ∧
        .createService "rg" "dev" "dapr-redis" payload ∈ (attempt ledger again s).state.calls := by
  intro again s ids
  have hids : (attempt ledger again s).result = .ok ids := rfl
  have hsame : ∀ g ∈ [twoEnvironments.1], g.service = again.service →
      g.place.group = again.place.group → g.place.environment = again.place.environment := by
    intro g hg _ _
    rw [List.mem_singleton.mp hg]
  exact ⟨hids, service_in_requested_environment ledger_keeps (fun _ _ => rfl) [twoEnvironments.1]
    again hsame hids⟩

/-- Of two goals that ask for different environments the second comes to the service of the first:
    nothing is ever created in the second environment. -/
theorem service_in_other_environment :
    let plane := Memory.plane {}
    let first := attempt plane twoEnvironments.1 ⟨{}, []⟩
    let second := attempt plane twoEnvironments.2 first.state
    first.result = .ok ⟨"/services/dapr-redis", "/components/statestore-redis"⟩ ∧
      second.result = .ok ⟨"/services/dapr-redis", "/components/statestore-redis"⟩ ∧
      ∀ group environment name payload,
        .createService group environment name payload ∈ second.state.calls →
          environment = "dev" ∧ payload.environmentId ≠ plane.environmentId "rg" "prod" := by
  intro plane first second
  have hcalls : second.state.calls =
      [.showService "rg" "dapr-redis",
       .createService "rg" "dev" "dapr-redis" ⟨none, "/rg/rg/env/dev", .redis⟩,
       .showComponent "rg" "dev" "statestore-redis",
       .createComponent "rg" "dev" "statestore-redis"
         ⟨"state.redis", ⟨"dapr-redis", "/services/dapr-redis"⟩⟩,
       .showService "rg" "dapr-redis",
       .showComponent "rg" "prod" "statestore-redis"] := by decide +kernel
  refine ⟨rfl, rfl, fun group environment name payload hmem => ?_⟩
  rw [hcalls] at hmem
  simp only [List.mem_cons, List.not_mem_nil, or_false, reduceCtorEq, false_or,
    Call.createService.injEq] at hmem
  obtain ⟨-, rfl, -, rfl⟩ := hmem
  exact ⟨rfl, by decide⟩

end DaprHosting.Provision
