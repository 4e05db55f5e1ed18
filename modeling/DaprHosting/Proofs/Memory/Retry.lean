import DaprHosting.Proofs.ControlPlane.Agreement
import DaprHosting.Proofs.Memory.Attempt

/-!
# Trying again

However often an attempt is disturbed, the first undisturbed one comes to what it would have come
to in the first place, and whoever tries again after that changes nothing and creates nothing:
`retry_is_transparent`.

One disturbed attempt keeps what the next is bound for (`Progress.bound`); a whole sequence of them
keeps it by induction. That nothing is created anew is seen in the record of the calls: both
lookups find what is stored.
-/

namespace DaprHosting

/-! ## 1. Calls on record -/

/-- The call creates something. -/
def Call.isCreation : Call → Bool
  | .createService .. => true
  | .createComponent .. => true
  | _ => false

namespace Provision

/-- A step that finds its resource only looks it up. -/
theorem Ensured.recorded_of_found {σ : Type} {look make : Call}
    {showing : Action σ ClientError Lookup} {creating : Action σ ClientError (Option Resource)}
    {lost : ClientError → Error} {failed : CreationFault → Error} {r r' : Recorded σ}
    {res : Except Error Resource} {x : Resource}
    (h : Ensured (Recorded.call look showing) (Recorded.call make creating) lost failed r res r')
    (hl : (showing r.state).result = .ok (.found x)) :
    res = .ok x ∧ r' = ⟨(showing r.state).state, r.calls ++ [look]⟩ := by
  cases h with
  | lookupFailed hl' => cases hl.symm.trans hl'
  | found hl' =>
    cases hl.symm.trans hl'
    exact ⟨rfl, rfl⟩
  | absent hl' => cases hl.symm.trans hl'

end Provision

namespace Memory

open Provision

/-! ## 2. Nothing is left to do -/

/-- Everything that an attempt would store is stored. -/
def Stored (component : ComponentKind) (service : ServiceKind) (s : Stores) : Prop :=
  component.supports service = true →
    s.services.get? service.serviceName = some (serviceAt service s) ∧
      ((∃ id, (serviceAt service s).effectiveId = some id) →
        s.components.get? (component.componentName service) =
          some (componentAt component service s))

theorem get?_withService (service : ServiceKind) (s : Stores) :
    (withService service s).services.get? service.serviceName = some (serviceAt service s) :=
  OrderedMap.get?_ensure_self ..

theorem get?_withComponent (component : ComponentKind) (service : ServiceKind) (s : Stores) :
    (withComponent component service s).components.get? (component.componentName service) =
      some (componentAt component service s) :=
  OrderedMap.get?_ensure_self ..

theorem stored_settled (component : ComponentKind) (service : ServiceKind) (s : Stores) :
    Stored component service (settled component service s) := by
  intro hc
  cases hid : (serviceAt service s).effectiveId with
  | none =>
    rw [settled_of_none hc hid, serviceAt_withService]
    refine ⟨get?_withService service s, ?_⟩
    rintro ⟨id, h⟩
    rw [hid] at h
    cases h
  | some id =>
    rw [settled_of_some hc hid, componentAt_withComponent]
    have hs : serviceAt service (withComponent component service (withService service s)) =
        serviceAt service s := serviceAt_withService ..
    rw [hs]
    exact ⟨get?_withService service s, fun _ => get?_withComponent ..⟩

theorem look_of_get? {store : OrderedMap Resource} {name : String} {r : Resource}
    (h : store.get? name = some r) : Memory.look store name .stored = .ok (.found r) := by
  rw [Memory.look, h]
  rfl

/-- **With everything stored, an attempt only looks.** -/
theorem recorded_of_stored {component : ComponentKind} {service : ServiceKind} {s : Stores}
    (h : Stored component service s) (location : Option String) (place : Place) :
    ∀ c ∈ (provision (plane {}).recording location component service place ⟨s, []⟩).state.calls,
      c.isCreation = false := by
  have hrun := provision_course (plane {}).recording location component service place ⟨s, []⟩
  generalize (provision (plane {}).recording location component service place ⟨s, []⟩).result = out,
    (provision (plane {}).recording location component service place ⟨s, []⟩).state = left
    at hrun ⊢
  cases hrun with
  | refused hc => exact fun c hm => absurd hm List.not_mem_nil
  | stopped hc hs he =>
    obtain ⟨-, rfl⟩ := hs.recorded_of_found (look_of_get? (h hc).1)
    intro c hm
    rw [List.mem_singleton.mp hm]
    rfl
  | wentOn hc hs hi hk =>
    obtain ⟨hserv, hcomp⟩ := h hc
    obtain ⟨rfl, rfl⟩ := hs.recorded_of_found (look_of_get? hserv)
    obtain ⟨_, ⟨⟩, hid⟩ := identified_eq_ok_iff.mp hi
    obtain ⟨-, rfl⟩ := hk.recorded_of_found (look_of_get? (hcomp ⟨_, hid⟩))
    intro c hm
    rcases List.mem_cons.mp hm with rfl | hm
    · rfl
    · rw [List.mem_singleton.mp hm]
      rfl

/-! ## 3. Attempts in a row -/

/-- An attempt on a given target. -/
structure Attempt where
  location : Option String
  disturbance : Disturbance

section Retry

variable (component : ComponentKind) (service : ServiceKind) (place : Place)

/-- The stores after one attempt. -/
def Attempt.run (s : Stores) (a : Attempt) : Stores :=
  (provision (plane a.disturbance.arranged) a.location component service place s).state

/-- The stores after attempts in a row. -/
def afterAttempts (attempts : List Attempt) (s : Stores) : Stores :=
  attempts.foldl (Attempt.run component service place) s

/-- **Attempts keep what the next one is bound for**, however they are disturbed. -/
theorem afterAttempts_bound (attempts : List Attempt) (s : Stores) :
    outcome component service (afterAttempts component service place attempts s) =
        outcome component service s ∧
      settled component service (afterAttempts component service place attempts s) =
        settled component service s := by
  induction attempts generalizing s with
  | nil => exact ⟨rfl, rfl⟩
  | cons a attempts ih =>
    obtain ⟨ho, hs⟩ := ih (a.run component service place s)
    obtain ⟨ho', hs'⟩ :=
      (disturbed_progress a.disturbance a.location component service place s).bound
    exact ⟨ho.trans ho', hs.trans hs'⟩

/-- Undisturbed attempts leave the stores where one of them left them. -/
theorem afterAttempts_settled (again : List (Option String)) (s : Stores) :
    afterAttempts component service place (again.map (⟨·, {}⟩)) (settled component service s) =
      settled component service s := by
  induction again with
  | nil => rfl
  | cons l again ih =>
    have h : Attempt.run component service place (settled component service s) ⟨l, {}⟩ =
        settled component service s := by
      have hr := (undisturbed_run l component service place (settled component service s)).2
      rwa [(bound_settled component service s).2] at hr
    rw [List.map_cons, afterAttempts, List.foldl_cons, h]
    exact ih

end Retry

/-! ## 4. Retries -/

/-- **A retry is transparent.** After any disturbed attempts on a target, an undisturbed one comes
    to the result and the stores that it would have come to at once. After any more of those,
    another one has the same result again, leaves the stores alone and creates nothing. -/
theorem retry_is_transparent (component : ComponentKind) (service : ServiceKind) (place : Place)
    (s : Stores) (attempts : List Attempt) (location location' : Option String) :
    let before := afterAttempts component service place attempts s
    let retry := provision (plane {}) location component service place before
    let direct := provision (plane {}) location' component service place s
    retry.result = direct.result ∧ retry.state = direct.state ∧
      ∀ (again : List (Option String)) (l : Option String),
        let left := afterAttempts component service place (again.map (⟨·, {}⟩)) retry.state
        let once := provision (plane {}).recording l component service place ⟨left, []⟩
        once.result = retry.result ∧ left = retry.state ∧ once.state.state = retry.state ∧
          ∀ c ∈ once.state.calls, c.isCreation = false := by
  intro before retry direct
  obtain ⟨ho, hs⟩ := afterAttempts_bound component service place attempts s
  obtain ⟨hretry, hretry'⟩ := undisturbed_run location component service place before
  obtain ⟨hdirect, hdirect'⟩ := undisturbed_run location' component service place s
  have hr : retry.result = outcome component service s := hretry.trans ho
  have hst : retry.state = settled component service s := hretry'.trans hs
  refine ⟨hr.trans hdirect.symm, hst.trans hdirect'.symm, ?_⟩
  intro again l left once
  have hleft : left = settled component service s := by
    show afterAttempts component service place (again.map (⟨·, {}⟩)) retry.state = _
    rw [hst]
    exact afterAttempts_settled component service place again s
  obtain ⟨hres, -, hstate⟩ := provision_agrees (recording_agrees (plane {})) l component service
    place ⟨left, []⟩ left rfl
  obtain ⟨hu, hu'⟩ := undisturbed_run l component service place left
  have hb := bound_settled component service s
  refine ⟨?_, hleft.trans hst.symm, ?_, ?_⟩
  · rw [hr, ← hb.1, ← hleft, ← hu]
    exact hres
  · rw [hst, ← hb.2, ← hleft, ← hu']
    exact hstate
  · refine recorded_of_stored ?_ l place
    rw [hleft]
    exact stored_settled component service s

end Memory

end DaprHosting
