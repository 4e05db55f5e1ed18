import DaprHosting.Backing.Kind
import DaprHosting.Json.Basic

/-!
# Payloads

What is submitted to create a managed service or a component bound to one.
-/

namespace DaprHosting

/-! ## 1. Services -/

/-- The envelope that creates a managed service in an environment. -/
structure ServicePayload where
  location : Option String
  environmentId : String
  kind : ServiceKind
deriving DecidableEq, Repr

/-- The document of a service; the location is left out when there is none. -/
def ServicePayload.toJson (p : ServicePayload) : Json :=
  .object (Json.member? "location" .string p.location ++
    [("properties", .object
      [("environmentId", .string p.environmentId),
       ("configuration", .object
        [("service", .object [("type", .string p.kind.name)])])])])

/-! ## 2. Components -/

/-- The service that a component refers back to. -/
structure ServiceBinding where
  name : String
  serviceId : String
deriving DecidableEq, Repr

/-- The envelope that creates a component bound to a service. -/
structure ComponentPayload where
  componentType : String
  binding : ServiceBinding
deriving DecidableEq, Repr

namespace ComponentPayload

/-- The payload of a building block over a service. -/
def of (component : ComponentKind) (service : ServiceKind) (binding : ServiceBinding) :
    ComponentPayload :=
  ⟨component.daprType service, binding⟩

/-- The version of the component's schema. -/
def schemaVersion : String := "v1"

/-- The document of a component. -/
def toJson (p : ComponentPayload) : Json :=
  .object
    [("properties", .object
      [("componentType", .string p.componentType),
       ("version", .string schemaVersion),
       ("ignoreErrors", .bool false),
       ("serviceComponentBind", .object
        [("name", .string p.binding.name),
         ("serviceId", .string p.binding.serviceId)])])]

end ComponentPayload

/-! ## 3. Results -/

/-- The ids of the service and the component, once both are there. -/
structure Provisioned where
  serviceId : String
  componentId : String
deriving DecidableEq, Repr

/-- The document that `binding provision` prints. -/
def Provisioned.toJson (p : Provisioned) : Json :=
  .object [("serviceId", .string p.serviceId), ("componentId", .string p.componentId)]

end DaprHosting
