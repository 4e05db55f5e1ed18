/-!
# Backing services and building blocks

The managed services that an environment can host, the Dapr building blocks they can back, and
the names that follow from the two kinds. The names are deterministic: a resource is looked up by
the name it would be created under.
-/

namespace DaprHosting

/-! ## 1. Services -/

/-- A kind of managed service. -/
inductive ServiceKind where
  | redis | postgres | kafka
deriving DecidableEq, Repr, Inhabited

namespace ServiceKind

/-- Every kind of service. -/
def all : List ServiceKind := [.redis, .postgres, .kafka]

/-- The word for a kind of service. -/
def name : ServiceKind → String
  | .redis => "redis"
  | .postgres => "postgres"
  | .kafka => "kafka"

/-- The kind that a name denotes. -/
def ofName? (s : String) : Option ServiceKind := all.find? fun k => k.name == s

/-- The name of the service of this kind in its resource group. -/
def serviceName (k : ServiceKind) : String := "dapr-" ++ k.name

end ServiceKind

/-! ## 2. Building blocks -/

/-- A Dapr building block that a service can back. -/
inductive ComponentKind where
  | state | pubsub
deriving DecidableEq, Repr, Inhabited

namespace ComponentKind

/-- Every building block. -/
def all : List ComponentKind := [.state, .pubsub]

/-- The word for a building block. -/
def name : ComponentKind → String
  | .state => "state"
  | .pubsub => "pubsub"

/-- Which services can back a building block: a state store redis and postgres, publish and
    subscribe redis and kafka. -/
def supports : ComponentKind → ServiceKind → Bool
  | .state, .redis => true
  | .state, .postgres => true
  | .state, .kafka => false
  | .pubsub, .redis => true
  | .pubsub, .postgres => false
  | .pubsub, .kafka => true

/-- The name of the component that binds the building block to a service. -/
def componentName (c : ComponentKind) (s : ServiceKind) : String :=
  match c with
  | .state => "statestore-" ++ s.name
  | .pubsub => c.name ++ "-" ++ s.name

/-- The type by which Dapr knows the component. -/
def daprType (c : ComponentKind) (s : ServiceKind) : String := c.name ++ "." ++ s.name

end ComponentKind

end DaprHosting
