import DaprHosting.ControlPlane.Basic

/-!
# Provisioning

A building block is provisioned in two steps, the service and then the component bound to it. Each
step looks its resource up by name and creates it only when the control plane says that it is
absent, so a run that broke off is taken up where it stopped.
-/

namespace DaprHosting.Provision

/-! ## 1. Errors -/

/-- Why a creation left no resource. -/
inductive CreationFault where
  | client (error : ClientError)
  /-- The request was accepted and nothing came back. -/
  | emptyResult
deriving DecidableEq, Repr

/-- What is told of a failed creation. -/
def CreationFault.message : CreationFault → String
  | .client e => e.message
  | .emptyResult => "control plane returned an empty resource"

/-- What can be looked up. -/
inductive Target where
  | service | component
deriving DecidableEq, Repr

/-- The word for what is looked for. -/
def Target.name : Target → String
  | .service => "service"
  | .component => "dapr component"

/-- Why provisioning failed. -/
inductive Error where
  | unsupportedService (name : String)
  | unsupportedBinding (component : ComponentKind) (service : ServiceKind)
  | lookup (target : Target) (name : String) (cause : ClientError)
  | serviceCreation (name : String) (kind : ServiceKind) (cause : CreationFault)
  | componentCreation (name daprType : String) (cause : CreationFault)
  | missingServiceId (name : String)
  | missingComponentId (name : String)
deriving DecidableEq, Repr

/-- What is told of a provision that failed. -/
def Error.message : Error → String
  | .unsupportedService name => "service type '" ++ name ++ "' is not supported"
  | .unsupportedBinding c s =>
    "component type '" ++ c.name ++ "' cannot be backed by service type '" ++ s.name ++ "'"
  | .lookup t name cause => "failed to look up " ++ t.name ++ " '" ++ name ++ "': " ++ cause.message
  | .serviceCreation name kind cause =>
    "failed to create service '" ++ name ++ "' of type '" ++ kind.name ++ "': " ++ cause.message
  | .componentCreation name daprType cause =>
    "failed to create dapr component '" ++ name ++ "' of type '" ++ daprType ++ "': " ++
      cause.message
  | .missingServiceId name => "service '" ++ name ++ "' has no resource id"
  | .missingComponentId name => "dapr component '" ++ name ++ "' has no resource id"

/-- The kind of service that a text names, or that there is none. -/
def serviceKind (text : String) : Except Error ServiceKind :=
  match ServiceKind.ofName? text with
  | some k => .ok k
  | none => .error (.unsupportedService text)

/-! ## 2. The two steps -/

/-- Where something is provisioned. -/
structure Place where
  group : String
  environment : String
deriving DecidableEq, Repr

variable {σ : Type}

/-- The resource a creation call made; an empty answer is an error as well. -/
def created (failed : CreationFault → Error) (x : Action σ ClientError (Option Resource)) :
    Action σ Error Resource := do
  match ← x.mapError fun e => failed (.client e) with
  | some r => pure r
  | none => Action.fail (failed .emptyResult)

/-- The service of a kind, found or created. -/
def ensureService (plane : ControlPlane σ) (location : Option String) (kind : ServiceKind)
    (place : Place) : Action σ Error Resource := do
  let name := kind.serviceName
  let fields := [("service", Log.Value.text name), ("service_type", .text kind.name)]
  Action.debug "looking up service" fields
  match ← (plane.showService place.group name).mapError (.lookup .service name) with
  | .found r =>
    Action.warn ("service " ++ name ++ " of type " ++ kind.name ++
      " already exists, skipping creation")
    pure r
  | .absent =>
    Action.debug "creating service" fields
    let payload : ServicePayload :=
      ⟨location, plane.environmentId place.group place.environment, kind⟩
    let r ← created (.serviceCreation name kind)
      (plane.createService place.group place.environment name payload)
    Action.debug "created service" fields
    pure r

/-- The component of a building block over a service, found or created. The step is safe on its own:
    it looks at the pair of kinds itself, whoever has done so before. -/
def ensureComponent (plane : ControlPlane σ) (component : ComponentKind) (service : ServiceKind)
    (serviceId : String) (place : Place) : Action σ Error Resource := do
  if component.supports service then
    let name := component.componentName service
    let daprType := component.daprType service
    Action.debug "looking up dapr component" [("component", .text name)]
    match ← (plane.showComponent place.group place.environment name).mapError
        (.lookup .component name) with
    | .found r =>
      Action.warn ("dapr component " ++ name ++ " of type " ++ daprType ++
        " already exists, skipping creation")
      pure r
    | .absent =>
      Action.debug "creating dapr component"
        [("component", .text name), ("service", .text service.serviceName)]
      created (.componentCreation name daprType)
        (plane.createComponent place.group place.environment name
          (.of component service ⟨service.serviceName, serviceId⟩))
  else Action.fail (.unsupportedBinding component service)

/-! ## 3. The whole -/

/-- Make sure that the service and its component exist, and return their ids. A pair of kinds that
    does not fit is refused before any call. -/
def provision (plane : ControlPlane σ) (location : Option String) (component : ComponentKind)
    (service : ServiceKind) (place : Place) : Action σ Error Provisioned := do
  if component.supports service then
    let s ← ensureService plane location service place
    let serviceId ← Action.require (.missingServiceId service.serviceName) s.effectiveId
    let c ← ensureComponent plane component service serviceId place
    let componentId ←
      Action.require (.missingComponentId (component.componentName service)) c.effectiveId
    pure ⟨serviceId, componentId⟩
  else Action.fail (.unsupportedBinding component service)

end DaprHosting.Provision
