import DaprHosting.Layer.Basic
import DaprHosting.Layer.Decode

/-!
# The layer of connection options

How the resource manager is reached.
-/

namespace DaprHosting

/-- Options of a connection. -/
structure ConnectionLayer where
  subscriptionId : Option Uuid := none
  endpoint : Option Url := none
  token : Option Token := none
  apiVersion : Option String := none
  timeout : Option RequestTimeout := none
deriving DecidableEq

/-- The configuration of a connection. -/
structure Connection where
  subscriptionId : Uuid
  endpoint : Url
  token : Token
  apiVersion : String
  timeout : RequestTimeout

namespace ConnectionLayer

open Layer

/-- The public endpoint, unless another is given. -/
def defaultEndpoint : Url where
  scheme := ['h', 't', 't', 'p', 's']
  authority := some ⟨[], "management.azure.com".toList, none⟩
  path := .segments [[]]
  query := none
  fragment := none

/-- The version of the interface, unless another is given. -/
def defaultApiVersion : String := "2023-11-02-preview"

/-- Each option is that of `top` where it has one, else that of `base`. -/
def overlay (base top : ConnectionLayer) : ConnectionLayer where
  subscriptionId := Layer.overlay base.subscriptionId top.subscriptionId
  endpoint := Layer.overlay base.endpoint top.endpoint
  token := Layer.overlay base.token top.token
  apiVersion := Layer.overlay base.apiVersion top.apiVersion
  timeout := Layer.overlay base.timeout top.timeout

/-- The options in a file. -/
def fields : List (FileOption ConnectionLayer) :=
  [.of "subscription-id" (ofText Uuid.read?) fun l a => { l with subscriptionId := some a },
   .of "arm-endpoint" (ofText Url.read?) fun l a => { l with endpoint := some a },
   .of "arm-token" Layer.token fun l a => { l with token := some a },
   .of "api-version" text fun l a => { l with apiVersion := some a },
   .of "request-timeout" Layer.timeout fun l a => { l with timeout := some a }]

/-- The layer of a file. -/
def ofEntries (entries : List (String × Toml)) : Except Error ConnectionLayer :=
  storeAll fields {} entries

/-- The configuration of all layers together. -/
def resolve (l : ConnectionLayer) : Except Error Connection := do
  let subscriptionId ← require "subscription-id" l.subscriptionId
  let token ← require "arm-token" l.token
  return {
    subscriptionId := subscriptionId
    endpoint := l.endpoint.getD defaultEndpoint
    token := token
    apiVersion := l.apiVersion.getD defaultApiVersion
    timeout := l.timeout.getD RequestTimeout.default }

example : defaultEndpoint.toText = "https://management.azure.com/" := by decide +kernel

end ConnectionLayer

end DaprHosting
