import DaprHosting.Proofs.Memory.Attempt

/-!
# The order of provisioning

Several targets are provisioned one after the other, undisturbed; they may share services, and some
may not be supported. In whatever order this is done, each has the same result and the stores hold
the same in the end: `order_is_irrelevant`.

An attempt changes nothing that another looks at, by `serviceAt_settled` and `componentAt_settled`:
what it stores under a name is what the other would store there. So the stores after any number of
attempts have a closed form (`get?_services_after`, `get?_components_after`), and the order does not
occur in it.
-/

namespace DaprHosting.Memory

open Provision

/-! ## 1. Targets in a row -/

/-- Something to provision. -/
structure Goal where
  location : Option String
  component : ComponentKind
  service : ServiceKind
  place : Place

/-- The undisturbed attempt. -/
def Goal.attempt (g : Goal) : Action Stores Error Provisioned :=
  provision (plane {}) g.location g.component g.service g.place

/-- The results of the attempts, one after the other. -/
def results : List Goal → Stores → List (Except Error Provisioned)
  | [], _ => []
  | g :: gs, s => (g.attempt s).result :: results gs (g.attempt s).state

/-- The stores after the attempts, one after the other. -/
def storesAfter : List Goal → Stores → Stores
  | [], s => s
  | g :: gs, s => storesAfter gs (g.attempt s).state

/-! ## 2. What one attempt does to the others -/

section Others

variable {α : Type} (m : OrderedMap α) (name other : String) (fresh : String → α)

/-- A name that is set to what it would be set to is as good as one that is not. -/
theorem getD_ensure :
    ((m.ensure name (fresh name)).get? other).getD (fresh other) =
      (m.get? other).getD (fresh other) := by
  rw [OrderedMap.get?_ensure]
  split
  · rename_i h
    rw [h, Option.getD_some]
  · rfl

theorem get?_ensure_or :
    (m.ensure name (fresh name)).get? other =
      (m.get? other).or (if name = other then some (fresh other) else none) := by
  rw [OrderedMap.get?_ensure]
  by_cases h : other = name
  · subst h
    rw [if_pos rfl, if_pos rfl]
    cases m.get? other <;> rfl
  · rw [if_neg h, if_neg (Ne.symm h), Option.or_none]

end Others

section Settled

variable (component component' : ComponentKind) (service service' : ServiceKind) (s : Stores)

theorem services_settled :
    (settled component service s).services =
      if component.supports service then
        s.services.ensure service.serviceName (freshService service.serviceName)
      else s.services := by
  cases hc : component.supports service with
  | false => rw [settled_of_unsupported hc]; rfl
  | true =>
    cases hid : (serviceAt service s).effectiveId with
    | none => rw [settled_of_none hc hid]; rfl
    | some id => rw [settled_of_some hc hid]; rfl

theorem components_settled :
    (settled component service s).components =
      if component.supports service ∧ (serviceAt service s).effectiveId.isSome then
        s.components.ensure (component.componentName service)
          (freshComponent (component.componentName service))
      else s.components := by
  cases hc : component.supports service with
  | false => rw [settled_of_unsupported hc]; rfl
  | true =>
    cases hid : (serviceAt service s).effectiveId with
    | none => rw [settled_of_none hc hid]; rfl
    | some id => rw [settled_of_some hc hid]; rfl

/-- No attempt changes which service another finds or makes. -/
theorem serviceAt_settled :
    serviceAt service' (settled component service s) = serviceAt service' s := by
  rw [serviceAt, services_settled]
  split
  · exact getD_ensure s.services service.serviceName service'.serviceName freshService
  · rfl

/-- No attempt changes which component another finds or makes. -/
theorem componentAt_settled :
    componentAt component' service' (settled component service s) =
      componentAt component' service' s := by
  rw [componentAt, components_settled]
  split
  · exact getD_ensure s.components (component.componentName service)
      (component'.componentName service') freshComponent
  · rfl

/-- **No attempt changes the result of another.** -/
theorem outcome_settled :
    outcome component' service' (settled component service s) = outcome component' service' s :=
  outcome_congr (serviceAt_settled ..) (componentAt_settled ..)

end Settled

/-! ## 3. All of them -/

/-- The goal asks for the service of this name. -/
def Goal.asksForService (name : String) (g : Goal) : Bool :=
  g.component.supports g.service && g.service.serviceName == name

/-- The goal asks for the component of this name, and comes to it. -/
def Goal.asksForComponent (s : Stores) (name : String) (g : Goal) : Bool :=
  g.component.supports g.service && (serviceAt g.service s).effectiveId.isSome &&
    g.component.componentName g.service == name

section All

variable (gs : List Goal) (s : Stores) (name : String)

theorem attempt_state (g : Goal) : (g.attempt s).state = settled g.component g.service s :=
  (undisturbed_run ..).2

theorem attempt_result (g : Goal) : (g.attempt s).result = outcome g.component g.service s :=
  (undisturbed_run ..).1

/-- **Every attempt has the result that it would have had alone.** -/
theorem results_eq : results gs s = gs.map fun g => (g.attempt s).result := by
  induction gs generalizing s with
  | nil => rfl
  | cons g gs ih =>
    have h : ∀ g' ∈ gs, (g'.attempt (g.attempt s).state).result = (g'.attempt s).result := by
      intro g' _
      rw [attempt_result, attempt_result, attempt_state]
      exact outcome_settled ..
    rw [results, List.map_cons, ih, List.map_congr_left h]

theorem get?_services_attempt (g : Goal) :
    (g.attempt s).state.services.get? name =
      (s.services.get? name).or
        (if g.asksForService name then some (freshService name) else none) := by
  rw [attempt_state, services_settled, Goal.asksForService]
  cases g.component.supports g.service with
  | false => exact (Option.or_none ..).symm
  | true =>
    rw [if_pos rfl, get?_ensure_or]
    simp

/-- **The services after any attempts**: those that were there, and those asked for. -/
theorem get?_services_after :
    (storesAfter gs s).services.get? name =
      (s.services.get? name).or
        (if gs.any (Goal.asksForService name) then some (freshService name) else none) := by
  induction gs generalizing s with
  | nil => exact (Option.or_none ..).symm
  | cons g gs ih =>
    rw [storesAfter, ih, get?_services_attempt, Option.or_assoc, List.any_cons]
    congr 1
    cases g.asksForService name <;> simp

theorem get?_components_attempt (g : Goal) :
    (g.attempt s).state.components.get? name =
      (s.components.get? name).or
        (if g.asksForComponent s name then some (freshComponent name) else none) := by
  rw [attempt_state, components_settled, Goal.asksForComponent]
  cases g.component.supports g.service with
  | false => exact (Option.or_none ..).symm
  | true =>
    cases (serviceAt g.service s).effectiveId.isSome with
    | false => exact (Option.or_none ..).symm
    | true =>
      rw [if_pos ⟨rfl, rfl⟩, get?_ensure_or]
      simp

/-- An attempt leaves it open which components the others come to. -/
theorem asksForComponent_attempt (g g' : Goal) :
    g'.asksForComponent (g.attempt s).state name = g'.asksForComponent s name := by
  unfold Goal.asksForComponent
  rw [attempt_state, serviceAt_settled]

/-- **The components after any attempts**: those that were there, and those come to. -/
theorem get?_components_after :
    (storesAfter gs s).components.get? name =
      (s.components.get? name).or
        (if gs.any (Goal.asksForComponent s name) then some (freshComponent name) else none) := by
  induction gs generalizing s with
  | nil => exact (Option.or_none ..).symm
  | cons g gs ih =>
    have ha : Goal.asksForComponent (g.attempt s).state name = Goal.asksForComponent s name :=
      funext fun g' => asksForComponent_attempt s name g g'
    rw [storesAfter, ih, get?_components_attempt, Option.or_assoc, List.any_cons, ha]
    congr 1
    cases g.asksForComponent s name <;> simp

end All

/-! ## 4. Any order -/

/-- **The order of provisioning is irrelevant.** Attempts in two orders leave the same stores, name
    by name, and in both each goal has the result that it would have had alone. -/
theorem order_is_irrelevant {gs gs' : List Goal} (h : gs.Perm gs') (s : Stores) :
    (∀ name, (storesAfter gs s).services.get? name = (storesAfter gs' s).services.get? name) ∧
      (∀ name,
        (storesAfter gs s).components.get? name = (storesAfter gs' s).components.get? name) ∧
      results gs s = (gs.map fun g => (g.attempt s).result) ∧
      results gs' s = gs'.map fun g => (g.attempt s).result := by
  refine ⟨?_, ?_, results_eq gs s, results_eq gs' s⟩
  · intro name
    rw [get?_services_after, get?_services_after, h.any_eq]
  · intro name
    rw [get?_components_after, get?_components_after, h.any_eq]

/-- Two building blocks over one service. -/
theorem order_is_irrelevant_for_shared_service :
    let state : Goal := ⟨none, .state, .redis, ⟨"rg", "env"⟩⟩
    let pubsub : Goal := ⟨none, .pubsub, .redis, ⟨"rg", "env"⟩⟩
    [state, pubsub].Perm [pubsub, state] ∧
      (∀ name, (storesAfter [state, pubsub] {}).services.get? name =
        (storesAfter [pubsub, state] {}).services.get? name) ∧
      (∀ name, (storesAfter [state, pubsub] {}).components.get? name =
        (storesAfter [pubsub, state] {}).components.get? name) ∧
      results [state, pubsub] {} = ([state, pubsub].map fun g => (g.attempt {}).result) ∧
      results [pubsub, state] {} = [pubsub, state].map fun g => (g.attempt {}).result :=
  ⟨.swap _ _ _, order_is_irrelevant (.swap _ _ _) {}⟩

end DaprHosting.Memory
