import DaprHosting.Layer.Connection
import DaprHosting.Layer.Logging

/-!
# The layer of `binding provision`
-/

namespace DaprHosting

/-- Options of provisioning. -/
structure BindingLayer where
  component : Option ComponentKind := none
  service : Option ServiceKind := none
  resourceGroup : Option String := none
  environment : Option String := none
  location : Option String := none
  connection : ConnectionLayer := {}
  logging : LoggingLayer := {}
deriving DecidableEq

/-- The configuration of provisioning. -/
structure BindingConfig where
  component : ComponentKind
  service : ServiceKind
  resourceGroup : String
  environment : String
  location : Option String
  connection : Connection
  logger : Log.Logger

namespace BindingLayer

open Layer

/-- Each option is that of `top` where it has one, else that of `base`. -/
def overlay (base top : BindingLayer) : BindingLayer where
  component := Layer.overlay base.component top.component
  service := Layer.overlay base.service top.service
  resourceGroup := Layer.overlay base.resourceGroup top.resourceGroup
  environment := Layer.overlay base.environment top.environment
  location := Layer.overlay base.location top.location
  connection := base.connection.overlay top.connection
  logging := base.logging.overlay top.logging

/-- The options in a file. -/
def fields : List (FileOption BindingLayer) :=
  [.of "component-type" (ownChoice .component) fun l a => { l with component := some a },
   .of "service-type" (ownChoice .service) fun l a => { l with service := some a },
   .of "resource-group" text fun l a => { l with resourceGroup := some a },
   .of "environment" text fun l a => { l with environment := some a },
   .of "location" text fun l a => { l with location := some a }]

/-- The layer of a file. -/
def ofEntries (entries : List (String × Toml)) : Except Error BindingLayer := do
  let own ← storeOwn fields {} entries
  let connection ← storeAll ConnectionLayer.fields {} entries
  let logging ← storeAll LoggingLayer.fields {} entries
  return { own with connection := connection, logging := logging }

/-- The configuration of all layers together. -/
def resolve (l : BindingLayer) : Except Error BindingConfig := do
  let component ← require "component-type" l.component
  let service ← require "service-type" l.service
  let resourceGroup ← require "resource-group" l.resourceGroup
  let environment ← require "environment" l.environment
  let connection ← l.connection.resolve
  return {
    component := component
    service := service
    resourceGroup := resourceGroup
    environment := environment
    location := l.location
    connection := connection
    logger := l.logging.resolve }

end BindingLayer

end DaprHosting
