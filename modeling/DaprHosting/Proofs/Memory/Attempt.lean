import DaprHosting.ControlPlane.Memory
import DaprHosting.Proofs.Provision.Course

/-!
# Attempts on a control plane in memory

An attempt to provision runs over the stores, undisturbed or with some of its calls made to fail.
Undisturbed it has a closed form, `undisturbed_run`: each resource is stored unless it was there
already, and the result is read off the stores. A disturbed attempt stops on the way there, by
`disturbed_progress`: it leaves the stores as they were, or with the service, or with both.
-/

namespace DaprHosting

/-! ## 1. Storing what is not there -/

namespace OrderedMap

variable {α : Type} (m : OrderedMap α) (name : String) (value : α)

/-- The map with a name set, unless it was set before. -/
def ensure : OrderedMap α := if (m.get? name).isSome then m else m.insert name value

variable {m name}

theorem ensure_of_some {v : α} (h : m.get? name = some v) : m.ensure name value = m := by
  rw [ensure, h]
  rfl

theorem ensure_of_none (h : m.get? name = none) :
    m.ensure name value = m.insert name value := by
  rw [ensure, h]
  rfl

variable (m name)

theorem get?_ensure (other : String) :
    (m.ensure name value).get? other =
      if other = name then some ((m.get? name).getD value) else m.get? other := by
  cases h : m.get? name with
  | none => rw [ensure_of_none value h, get?_insert, Option.getD_none]
  | some v =>
    rw [ensure_of_some value h, Option.getD_some]
    split
    · rename_i e
      rw [e, h]
    · rfl

theorem get?_ensure_self : (m.ensure name value).get? name = some ((m.get? name).getD value) := by
  rw [get?_ensure, if_pos rfl]

/-- Once is enough. -/
theorem ensure_ensure : (m.ensure name value).ensure name value = m.ensure name value :=
  ensure_of_some value (get?_ensure_self m name value)

end OrderedMap

namespace Memory

open Provision

/-! ## 2. Disturbances -/

/-- Which calls of an attempt are made to fail, and how. -/
structure Disturbance where
  showService : Option ClientError := none
  createService : Option CreationFault := none
  showComponent : Option ClientError := none
  createComponent : Option CreationFault := none

/-- A lookup that fails, or answers what is stored. -/
def shown : Option ClientError → Showing
  | none => .stored
  | some e => .fails e

/-- A creation that fails or gets an empty answer, or else is accepted. -/
def made : Option CreationFault → Creating
  | none => .accepted
  | some (.client e) => .fails e
  | some .emptyResult => .empty

/-- The outcomes arranged by a disturbance. -/
def Disturbance.arranged (d : Disturbance) : Arrangement :=
  ⟨shown d.showService, made d.createService, shown d.showComponent, made d.createComponent⟩

/-- A call is made to fail. -/
def Disturbance.Strikes (d : Disturbance) : Prop :=
  d.showService.isSome ∨ d.createService.isSome ∨ d.showComponent.isSome ∨ d.createComponent.isSome

theorem not_strikes : ¬ ({} : Disturbance).Strikes := by
  simp [Disturbance.Strikes]

/-! ## 3. One step -/

/-- **A step stores its resource unless it is there**, or is disturbed and stores nothing. -/
theorem ensured_stored (store : OrderedMap Resource) (put : OrderedMap Resource → Stores)
    {name : String} {fresh : Resource} {lookFault : Option ClientError}
    {makeFault : Option CreationFault} {look : Action Stores ClientError Lookup}
    {make : Action Stores ClientError (Option Resource)} {lost : ClientError → Error}
    {failed : CreationFault → Error} {s s' : Stores} {res : Except Error Resource}
    (hput : put store = s)
    (hlook : look s = ⟨Memory.look store name (shown lookFault), s, []⟩)
    (hmake : make s = ⟨(Memory.make store name fresh (made makeFault)).1,
      put (Memory.make store name fresh (made makeFault)).2, []⟩)
    (h : Ensured look make lost failed s res s') :
    res = .ok ((store.get? name).getD fresh) ∧ s' = put (store.ensure name fresh) ∨
      (lookFault.isSome ∨ makeFault.isSome) ∧ (∃ e, res = .error e) ∧ s' = s := by
  cases h with
  | lookupFailed hl =>
    rw [hlook] at hl ⊢
    cases lookFault with
    | none => cases hl
    | some e => exact .inr ⟨.inl rfl, ⟨_, rfl⟩, rfl⟩
  | found hl =>
    rw [hlook] at hl ⊢
    cases lookFault with
    | none =>
      cases hs : store.get? name with
      | none => simp [shown, Memory.look, hs] at hl
      | some r =>
        simp only [shown, Memory.look, hs, Option.elim_some, Except.ok.injEq, Lookup.found.injEq]
          at hl
        subst hl
        exact .inl ⟨rfl, by rw [OrderedMap.ensure_of_some fresh hs, hput]⟩
    | some e => cases hl
  | absent hl =>
    rw [hlook] at hl ⊢
    cases lookFault with
    | none =>
      cases hs : store.get? name with
      | none =>
        rw [hmake]
        rcases makeFault with _ | e | _
        · exact .inl ⟨rfl, by rw [OrderedMap.ensure_of_none fresh hs]; rfl⟩
        · exact .inr ⟨.inr rfl, ⟨_, rfl⟩, hput⟩
        · exact .inr ⟨.inr rfl, ⟨_, rfl⟩, hput⟩
      | some r => simp [shown, Memory.look, hs] at hl
    | some e => cases hl

/-! ## 4. Where an attempt is bound for -/

/-- What the control plane makes under a name. -/
def freshService (name : String) : Resource := .withId ("/services/" ++ name)

/-- What the control plane makes under a name. -/
def freshComponent (name : String) : Resource := .withId ("/components/" ++ name)

section Bound

variable (component : ComponentKind) (service : ServiceKind) (s : Stores)

/-- The service that is stored, or would be made. -/
def serviceAt : Resource :=
  (s.services.get? service.serviceName).getD (freshService service.serviceName)

/-- The component that is stored, or would be made. -/
def componentAt : Resource :=
  (s.components.get? (component.componentName service)).getD
    (freshComponent (component.componentName service))

/-- The stores with the service. -/
def withService : Stores :=
  ⟨s.services.ensure service.serviceName (freshService service.serviceName), s.components⟩

/-- The stores with the component. -/
def withComponent : Stores :=
  ⟨s.services, s.components.ensure (component.componentName service)
    (freshComponent (component.componentName service))⟩

/-- The result of an undisturbed attempt. -/
def outcome : Except Error Provisioned :=
  if component.supports service then
    (identified (.missingServiceId service.serviceName) (.ok (serviceAt service s))).bind fun sid =>
      (identified (.missingComponentId (component.componentName service))
        (.ok (componentAt component service s))).map (⟨sid, ·⟩)
  else .error (.unsupportedBinding component service)

/-- The stores after an undisturbed attempt. -/
def settled : Stores :=
  if component.supports service then
    match (serviceAt service s).effectiveId with
    | some _ => withComponent component service (withService service s)
    | none => withService service s
  else s

variable {component service s}

theorem settled_of_some (hc : component.supports service = true) {id : String}
    (h : (serviceAt service s).effectiveId = some id) :
    settled component service s = withComponent component service (withService service s) := by
  rw [settled, if_pos hc, h]

theorem settled_of_none (hc : component.supports service = true)
    (h : (serviceAt service s).effectiveId = none) :
    settled component service s = withService service s := by
  rw [settled, if_pos hc, h]

theorem settled_of_unsupported (hc : component.supports service = false) :
    settled component service s = s := by
  rw [settled, if_neg (by rw [hc]; exact nofun)]

variable (component service s)

/-- **How far an attempt can come**: nowhere, to the service, or to where it is bound. -/
inductive Progress : Stores → Prop where
  | nowhere : Progress s
  | service (hc : component.supports service = true) : Progress (withService service s)
  | whole : Progress (settled component service s)

end Bound

/-! ## 5. What progress keeps -/

section Kept

variable (component : ComponentKind) (service : ServiceKind) (s : Stores)

theorem serviceAt_withService :
    serviceAt service (withService service s) = serviceAt service s := by
  unfold serviceAt withService
  rw [OrderedMap.get?_ensure_self, Option.getD_some]

theorem componentAt_withComponent :
    componentAt component service (withComponent component service s) =
      componentAt component service s := by
  unfold componentAt withComponent
  rw [OrderedMap.get?_ensure_self, Option.getD_some]

theorem withService_withService :
    withService service (withService service s) = withService service s := by
  unfold withService
  rw [OrderedMap.ensure_ensure]

theorem withComponent_withComponent :
    withComponent component service (withComponent component service s) =
      withComponent component service s := by
  unfold withComponent
  rw [OrderedMap.ensure_ensure]

/-- The two stores do not touch. -/
theorem withService_withComponent :
    withService service (withComponent component service s) =
      withComponent component service (withService service s) := rfl

variable {component service s} {s' : Stores}

theorem outcome_congr (hs : serviceAt service s' = serviceAt service s)
    (hc : componentAt component service s' = componentAt component service s) :
    outcome component service s' = outcome component service s := by
  unfold outcome
  rw [hs, hc]

/-- With the service stored, an attempt is bound for the same. -/
theorem bound_withService (hc : component.supports service = true) :
    outcome component service (withService service s) = outcome component service s ∧
      settled component service (withService service s) = settled component service s := by
  refine ⟨outcome_congr (serviceAt_withService ..) rfl, ?_⟩
  cases hid : (serviceAt service s).effectiveId with
  | none =>
    rw [settled_of_none hc hid, settled_of_none hc (by rw [serviceAt_withService, hid]),
      withService_withService]
  | some id =>
    rw [settled_of_some hc hid, settled_of_some hc (by rw [serviceAt_withService, hid]),
      withService_withService]

/-- With everything stored, an attempt is bound for where it is. -/
theorem bound_settled (component : ComponentKind) (service : ServiceKind) (s : Stores) :
    outcome component service (settled component service s) = outcome component service s ∧
      settled component service (settled component service s) = settled component service s := by
  cases hc : component.supports service with
  | false =>
    rw [settled_of_unsupported hc]
    exact ⟨rfl, settled_of_unsupported hc⟩
  | true =>
    cases hid : (serviceAt service s).effectiveId with
    | none =>
      have h := bound_withService (s := s) hc
      rwa [settled_of_none hc hid] at h ⊢
    | some id =>
      have hs : serviceAt service (withComponent component service (withService service s)) =
          serviceAt service s := serviceAt_withService ..
      rw [settled_of_some hc hid]
      refine ⟨outcome_congr hs (componentAt_withComponent ..), ?_⟩
      rw [settled_of_some hc (by rw [hs, hid]), withService_withComponent, withService_withService,
        withComponent_withComponent]

/-- **From wherever an attempt has come, the next one comes to the same end.** -/
theorem Progress.bound (h : Progress component service s s') :
    outcome component service s' = outcome component service s ∧
      settled component service s' = settled component service s := by
  cases h with
  | nowhere => exact ⟨rfl, rfl⟩
  | service hc => exact bound_withService hc
  | whole => exact bound_settled component service s

end Kept

/-! ## 6. Attempts -/

section Attempts

variable {d : Disturbance} {location : Option String} {component : ComponentKind}
  {service : ServiceKind} {place : Place} {serviceId : String} {s s' : Stores}
  {res : Except Error Resource}

theorem serviceEnsured_stored
    (h : ServiceEnsured (plane d.arranged) location service place s res s') :
    res = .ok (serviceAt service s) ∧ s' = withService service s ∨
      (d.showService.isSome ∨ d.createService.isSome) ∧ (∃ e, res = .error e) ∧ s' = s :=
  ensured_stored s.services (fun x => { s with services := x }) rfl rfl rfl h

theorem componentEnsured_stored
    (h : ComponentEnsured (plane d.arranged) component service serviceId place s res s') :
    res = .ok (componentAt component service s) ∧ s' = withComponent component service s ∨
      (d.showComponent.isSome ∨ d.createComponent.isSome) ∧ (∃ e, res = .error e) ∧ s' = s :=
  ensured_stored s.components (fun x => { s with components := x }) rfl rfl rfl h

/-- **An attempt comes where it is bound, or is disturbed and fails on the way.** -/
theorem attempt_run (d : Disturbance) (location : Option String) (component : ComponentKind)
    (service : ServiceKind) (place : Place) (s : Stores) :
    (provision (plane d.arranged) location component service place s).result =
          outcome component service s ∧
        (provision (plane d.arranged) location component service place s).state =
          settled component service s ∨
      d.Strikes ∧ Progress component service s
        (provision (plane d.arranged) location component service place s).state := by
  have h := provision_course (plane d.arranged) location component service place s
  generalize (provision (plane d.arranged) location component service place s).result = out,
    (provision (plane d.arranged) location component service place s).state = s' at h ⊢
  cases h with
  | refused hc =>
    refine .inl ⟨?_, (settled_of_unsupported hc).symm⟩
    rw [outcome, if_neg (by rw [hc]; exact nofun)]
  | stopped hc hs he =>
    rcases serviceEnsured_stored hs with ⟨rfl, rfl⟩ | ⟨hd, -, rfl⟩
    · refine .inl ⟨?_, ?_⟩
      · rw [outcome, if_pos hc, he]
        rfl
      · rcases identified_eq_error_iff.mp he with he | ⟨r, hr, hid, -⟩
        · cases he
        · cases hr
          exact (settled_of_none hc hid).symm
    · exact .inr ⟨by rcases hd with h | h <;> simp [Disturbance.Strikes, h], .nowhere⟩
  | wentOn hc hs hi hk =>
    obtain ⟨r, hr, hid⟩ := identified_eq_ok_iff.mp hi
    rcases serviceEnsured_stored hs with ⟨rfl, rfl⟩ | ⟨-, ⟨e, he⟩, -⟩
    · cases hr
      rcases componentEnsured_stored hk with ⟨rfl, rfl⟩ | ⟨hd, -, rfl⟩
      · refine .inl ⟨?_, (settled_of_some hc hid).symm⟩
        rw [outcome, if_pos hc, hi]
        rfl
      · exact .inr ⟨by rcases hd with h | h <;> simp [Disturbance.Strikes, h], .service hc⟩
    · rw [hr] at he
      cases he

theorem undisturbed_run (location : Option String) (component : ComponentKind)
    (service : ServiceKind) (place : Place) (s : Stores) :
    (provision (plane {}) location component service place s).result =
        outcome component service s ∧
      (provision (plane {}) location component service place s).state =
        settled component service s := by
  rcases attempt_run {} location component service place s with h | ⟨h, -⟩
  · exact h
  · exact absurd h not_strikes

theorem disturbed_progress (d : Disturbance) (location : Option String) (component : ComponentKind)
    (service : ServiceKind) (place : Place) (s : Stores) :
    Progress component service s
      (provision (plane d.arranged) location component service place s).state := by
  rcases attempt_run d location component service place s with ⟨-, h⟩ | ⟨-, h⟩
  · rw [h]
    exact .whole
  · exact h

end Attempts

end Memory

end DaprHosting
