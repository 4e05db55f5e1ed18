import DaprHosting.Provision

/-!
# Control planes that agree

Two actions on different states agree along a relation of the states when, from related states,
they come to the same result, log the same and leave related states. Sequencing keeps agreement, so
two control planes whose calls agree cannot be told apart by provisioning: that is
`provision_agrees`. A record of the calls is such a difference, and so is anything else that a
control plane keeps to itself.
-/

namespace DaprHosting

variable {σ τ ε δ α β : Type} {R : τ → σ → Prop}

/-! ## 1. Actions -/

/-- **The actions agree along `R`**: same result, same events, and states that are related again. -/
def Action.Agrees (R : τ → σ → Prop) (x : Action τ ε α) (y : Action σ ε α) : Prop :=
  ∀ t s, R t s → (x t).result = (y s).result ∧ (x t).log = (y s).log ∧ R (x t).state (y s).state

namespace Action

theorem Agrees.pure (a : α) : Agrees R (pure a : Action τ ε α) (pure a : Action σ ε α) :=
  fun _ _ h => ⟨rfl, rfl, h⟩

theorem Agrees.fail (e : ε) : Agrees R (fail e : Action τ ε α) (fail e : Action σ ε α) :=
  fun _ _ h => ⟨rfl, rfl, h⟩

theorem Agrees.log (e : Log.Event) :
    Agrees R (log e : Action τ ε Unit) (log e : Action σ ε Unit) :=
  fun _ _ h => ⟨rfl, rfl, h⟩

theorem Agrees.require (e : ε) (o : Option α) :
    Agrees R (require e o : Action τ ε α) (require e o : Action σ ε α) := by
  cases o with
  | none => exact .fail e
  | some a => exact .pure a

theorem Agrees.mapError (f : ε → δ) {x : Action τ ε α} {y : Action σ ε α} (h : Agrees R x y) :
    Agrees R (x.mapError f) (y.mapError f) := by
  intro t s hr
  obtain ⟨h1, h2, h3⟩ := h t s hr
  exact ⟨congrArg (Except.mapError f) h1, h2, h3⟩

/-- **A sequence agrees when its parts do.** -/
theorem Agrees.bind {x : Action τ ε α} {y : Action σ ε α} {f : α → Action τ ε β}
    {g : α → Action σ ε β} (h : Agrees R x y) (hf : ∀ a, Agrees R (f a) (g a)) :
    Agrees R (x >>= f) (y >>= g) := by
  intro t s hr
  obtain ⟨h1, h2, h3⟩ := h t s hr
  cases hy : (y s).result with
  | error e =>
    rw [bind_run_error hy, bind_run_error (h1.trans hy)]
    exact ⟨rfl, h2, h3⟩
  | ok a =>
    rw [bind_run_ok hy, bind_run_ok (h1.trans hy)]
    obtain ⟨k1, k2, k3⟩ := hf a _ _ h3
    exact ⟨k1, by rw [h2, k2], k3⟩

end Action

/-! ## 2. Control planes -/

/-- **The control planes agree along `R`**: each of their calls does. -/
structure ControlPlane.Agrees (R : τ → σ → Prop) (p : ControlPlane τ) (q : ControlPlane σ) :
    Prop where
  environmentId : ∀ group environment,
    p.environmentId group environment = q.environmentId group environment
  showService : ∀ group name,
    Action.Agrees R (p.showService group name) (q.showService group name)
  createService : ∀ group environment name payload,
    Action.Agrees R (p.createService group environment name payload)
      (q.createService group environment name payload)
  showComponent : ∀ group environment name,
    Action.Agrees R (p.showComponent group environment name)
      (q.showComponent group environment name)
  createComponent : ∀ group environment name payload,
    Action.Agrees R (p.createComponent group environment name payload)
      (q.createComponent group environment name payload)

namespace Provision

open DaprHosting.Action (Agrees)

variable {p : ControlPlane τ} {q : ControlPlane σ}

theorem created_agrees (failed : CreationFault → Error)
    {x : Action τ ClientError (Option Resource)} {y : Action σ ClientError (Option Resource)}
    (h : Agrees R x y) : Agrees R (created failed x) (created failed y) := by
  refine .bind (h.mapError _) fun o => ?_
  cases o with
  | none => exact .fail _
  | some r => exact .pure r

theorem ensureService_agrees (h : ControlPlane.Agrees R p q) (location : Option String)
    (kind : ServiceKind) (place : Place) :
    Agrees R (ensureService p location kind place) (ensureService q location kind place) := by
  refine .bind (.log _) fun _ => .bind ((h.showService _ _).mapError _) fun l => ?_
  cases l with
  | found r => exact .bind (.log _) fun _ => .pure r
  | absent =>
    rw [h.environmentId]
    exact .bind (.log _) fun _ => .bind (created_agrees _ (h.createService _ _ _ _)) fun r =>
      .bind (.log _) fun _ => .pure r

theorem ensureComponent_agrees (h : ControlPlane.Agrees R p q) (component : ComponentKind)
    (service : ServiceKind) (serviceId : String) (place : Place) :
    Agrees R (ensureComponent p component service serviceId place)
      (ensureComponent q component service serviceId place) := by
  unfold ensureComponent
  by_cases hc : component.supports service = true
  · rw [if_pos hc, if_pos hc]
    refine .bind (.log _) fun _ => .bind ((h.showComponent _ _ _).mapError _) fun l => ?_
    cases l with
    | found r => exact .bind (.log _) fun _ => .pure r
    | absent => exact .bind (.log _) fun _ => created_agrees _ (h.createComponent _ _ _ _)
  · rw [if_neg hc, if_neg hc]
    exact .fail _

/-- **Provisioning does not tell control planes apart that agree.** -/
theorem provision_agrees (h : ControlPlane.Agrees R p q) (location : Option String)
    (component : ComponentKind) (service : ServiceKind) (place : Place) :
    Agrees R (provision p location component service place)
      (provision q location component service place) := by
  unfold provision
  by_cases hc : component.supports service = true
  · rw [if_pos hc, if_pos hc]
    exact .bind (ensureService_agrees h _ _ _) fun s => .bind (.require _ _) fun serviceId =>
      .bind (ensureComponent_agrees h _ _ _ _) fun c => .bind (.require _ _) fun _ => .pure _
  · rw [if_neg hc, if_neg hc]
    exact .fail _

end Provision

/-! ## 3. Keeping a record -/

theorem Recorded.call_agrees (c : Call) (x : Action σ ε α) :
    Action.Agrees (fun r s => r.state = s) (Recorded.call c x) x := by
  rintro r _ rfl
  exact ⟨rfl, rfl, rfl⟩

/-- Whoever reads only the state cannot tell that a record is kept. -/
theorem recording_agrees (p : ControlPlane σ) :
    ControlPlane.Agrees (fun r s => r.state = s) p.recording p where
  environmentId _ _ := rfl
  showService _ _ := Recorded.call_agrees _ _
  createService _ _ _ _ := Recorded.call_agrees _ _
  showComponent _ _ _ := Recorded.call_agrees _ _
  createComponent _ _ _ _ := Recorded.call_agrees _ _

end DaprHosting
