import DaprHosting.Action
import DaprHosting.Backing.Payload
import DaprHosting.Resource

/-!
# Control planes

A control plane shows and creates services and components. It is given by what each of its calls
does on a state `σ`: the stores of a control plane in memory, or a network with the answers still
to come. Nothing is assumed of the calls; whatever holds of provisioning holds for every one.
-/

namespace DaprHosting

/-! ## 1. Errors and answers -/

/-- Why a call failed. -/
inductive ClientError where
  /-- No response, or none that could be read to its end. -/
  | network (cause : String)
  | unauthorized (message : String)
  | rateLimit
  /-- Any other status that is no success. -/
  | api (status : Nat) (message : String)
  /-- A success whose body is no resource. -/
  | decode (cause : String)
  | invalidConfig (cause : String)
deriving DecidableEq, Repr

/-- What is told of a call that failed. -/
def ClientError.message : ClientError → String
  | .network cause => "network request failed: " ++ cause
  | .unauthorized message => "access denied: " ++ message
  | .rateLimit => "rate limited"
  | .api status message => "request failed with status " ++ toString status ++ ": " ++ message
  | .decode cause => "invalid response: " ++ cause
  | .invalidConfig cause => "invalid config: " ++ cause

/-- The answer to a lookup. Only a control plane that knows the resource to be absent says so. -/
inductive Lookup where
  | found (resource : Resource)
  | absent

/-! ## 2. The interface -/

/-- The calls of a control plane. A creation may be accepted without a resource in the answer. -/
structure ControlPlane (σ : Type) where
  environmentId : (group environment : String) → String
  showService : (group name : String) → Action σ ClientError Lookup
  createService : (group environment name : String) → ServicePayload →
    Action σ ClientError (Option Resource)
  showComponent : (group environment name : String) → Action σ ClientError Lookup
  createComponent : (group environment name : String) → ComponentPayload →
    Action σ ClientError (Option Resource)

/-! ## 3. Calls on record -/

/-- A call with its arguments. -/
inductive Call where
  | showService (group name : String)
  | createService (group environment name : String) (payload : ServicePayload)
  | showComponent (group environment name : String)
  | createComponent (group environment name : String) (payload : ComponentPayload)
deriving DecidableEq, Repr

/-- A state with the calls made so far, in their order. -/
structure Recorded (σ : Type) where
  state : σ
  calls : List Call := []

/-- The action with its call put on record first. -/
def Recorded.call {σ ε α : Type} (c : Call) (x : Action σ ε α) : Action (Recorded σ) ε α := fun s =>
  ⟨(x s.state).result, ⟨(x s.state).state, s.calls ++ [c]⟩, (x s.state).log⟩

/-- The same control plane, which keeps a record of its calls. -/
def ControlPlane.recording {σ : Type} (p : ControlPlane σ) : ControlPlane (Recorded σ) where
  environmentId := p.environmentId
  showService group name := Recorded.call (.showService group name) (p.showService group name)
  createService group environment name payload :=
    Recorded.call (.createService group environment name payload)
      (p.createService group environment name payload)
  showComponent group environment name :=
    Recorded.call (.showComponent group environment name)
      (p.showComponent group environment name)
  createComponent group environment name payload :=
    Recorded.call (.createComponent group environment name payload)
      (p.createComponent group environment name payload)

end DaprHosting
