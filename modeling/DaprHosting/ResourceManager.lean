import DaprHosting.Http.Status
import DaprHosting.Http.Wire
import DaprHosting.Json.Fields
import DaprHosting.Json.Reader
import DaprHosting.Layer.Connection
import DaprHosting.Url.Append

/-!
# The resource manager

The control plane behind an endpoint. A lookup is a GET, a creation a PUT, each with the version of
the interface in its query. Only the answer 404 to a GET says that a resource is absent. A user name and
a password in the endpoint stay in the URL of every request, as `Http.Request` keeps it.
-/

namespace DaprHosting

open Http

/-! ## 1. Clients -/

/-- A client of the resource manager; its token has been resolved. -/
structure ResourceManager where
  endpoint : Url
  subscriptionId : Uuid
  apiVersion : String
  token : String

namespace ResourceManager

/-- The client of a connection. The token is resolved first; then the endpoint must be one that
    names can be added to. -/
def connect (files : Files) (c : Connection) : Except ClientError ResourceManager := do
  let token ← c.token.resolve files
  if c.endpoint.isBase then
    return ⟨c.endpoint, c.subscriptionId, c.apiVersion, token⟩
  else
    .error (.invalidConfig ("arm endpoint '" ++ c.endpoint.toText ++ "' is not a base url"))

/-! ## 2. Names and URLs -/

/-- The provider of environments and services. -/
def provider : String := "Microsoft.App"

/-- The names that lead to what a resource group holds of the provider. -/
def groupNames (m : ResourceManager) (group : String) : List String :=
  ["subscriptions", m.subscriptionId.toText, "resourceGroups", group, "providers", provider]

/-- The names that lead to an environment. -/
def environmentNames (m : ResourceManager) (group environment : String) : List String :=
  m.groupNames group ++ ["managedEnvironments", environment]

/-- The names that lead to a service. -/
def serviceNames (m : ResourceManager) (group name : String) : List String :=
  m.groupNames group ++ ["containerApps", name]

/-- The names that lead to a component. -/
def componentNames (m : ResourceManager) (group environment name : String) : List String :=
  m.environmentNames group environment ++ ["daprComponents", name]

/-- The URL that names lead to. -/
def url (m : ResourceManager) (names : List String) : Url :=
  (m.endpoint.appendNames (names.map String.toList)).appendPair "api-version" m.apiVersion

/-- The URL of a managed environment. -/
def environmentUrl (m : ResourceManager) (group environment : String) : Url :=
  m.url (m.environmentNames group environment)

/-- The URL of a service: it names the resource group, and not the environment. -/
def serviceUrl (m : ResourceManager) (group name : String) : Url :=
  m.url (m.serviceNames group name)

/-- The URL of a component, below that of its environment. -/
def componentUrl (m : ResourceManager) (group environment name : String) : Url :=
  m.url (m.componentNames group environment name)

/-- The id of an environment. -/
def environmentId (m : ResourceManager) (group environment : String) : String :=
  "/" ++ String.intercalate "/" (m.environmentNames group environment)

/-! ## 3. Answers -/

/-- Code and message of an error document. -/
def errorDetail? (j : Json) : Option (Option String × Option String) := do
  match ← j.fields? ["code", "message"] false with
  | [code, message] =>
    return (← Json.optional Json.string? code, ← Json.optional Json.string? message)
  | _ => none

/-- What an error document says; none when the text is no such document or says nothing. -/
def errorText? (body : String) : Option String := do
  match ← (← Json.read? body).fields? ["error"] false with
  | [error] =>
    let (code, message) ← (← Json.optional errorDetail? error)
    let text := match code, message with
      | some c, some m => c ++ ": " ++ m
      | none, some m => m
      | some c, none => c
      | none, none => ""
    if text = "" then none else some text
  | _ => none

/-- The error of a status that is no success. -/
def refusal (status : Nat) (body : String) : ClientError :=
  let message := (errorText? body).getD (statusLine status)
  if status = 401 ∨ status = 403 then .unauthorized message
  else if status = 429 then .rateLimit
  else .api status message

/-- The resource in a response, none when its body is blank. -/
def decode (r : Response) : Except ClientError (Option Resource) :=
  match r.body with
  | none => .error (.network "the body cannot be read")
  | some body =>
    if isSuccess r.status then
      if Text.nonBlank? body = none then .ok none
      else
        match (Json.read? body).bind Resource.ofJson? with
        | some resource => .ok (some resource)
        | none => .error (.decode "the body is no resource")
    else .error (refusal r.status body)

/-- What a response to a lookup says. -/
def lookupOf (r : Response) : Except ClientError Lookup :=
  if r.status = 404 then .ok .absent
  else
    match decode r with
    | .ok (some resource) => .ok (.found resource)
    | .ok none => .error (.decode "empty response body")
    | .error e => .error e

/-! ## 4. Calls -/

/-- The event of a request. -/
def logRequest (method : Method) (url : Url) : Action Wire ClientError Unit :=
  Action.debug method.name [("url", .text url.toText)]

/-- Look up what a URL leads to. -/
def get (m : ResourceManager) (network : Network) (url : Url) : Action Wire ClientError Lookup := do
  logRequest .get url
  let r ← exchange network ⟨.get, url, m.token, none⟩
  Action.ofExcept (lookupOf r)

/-- Create what a URL leads to. -/
def put (m : ResourceManager) (network : Network) (url : Url) (body : Json) :
    Action Wire ClientError (Option Resource) := do
  logRequest .put url
  let r ← exchange network ⟨.put, url, m.token, some body⟩
  Action.ofExcept (decode r)

/-- The location among the properties of an environment. -/
def locationOf (environment : String) (r : Resource) : Except ClientError String :=
  match Json.optional Json.string? (r.properties.get? "location") with
  | some (some location) => .ok location
  | some none =>
    .error (.decode ("managed environment '" ++ environment ++ "' has no location"))
  | none => .error (.decode "the location is no text")

/-- The location of an environment, asked of the control plane. -/
def environmentLocation (m : ResourceManager) (network : Network) (group environment : String) :
    Action Wire ClientError String := do
  match ← m.get network (m.environmentUrl group environment) with
  | .found r => Action.ofExcept (locationOf environment r)
  | .absent =>
    Action.fail (.invalidConfig ("managed environment '" ++ environment ++
      "' not found in resource group '" ++ group ++ "'"))

/-- Create a service; one without a location goes to that of its environment. -/
def createService (m : ResourceManager) (network : Network) (group environment name : String)
    (payload : ServicePayload) : Action Wire ClientError (Option Resource) := do
  let url := m.serviceUrl group name
  match payload.location with
  | some _ => m.put network url payload.toJson
  | none =>
    let location ← m.environmentLocation network group environment
    Action.debug "using managed environment location for new service"
      [("location", .text location)]
    m.put network url { payload with location := some location }.toJson

/-- The control plane behind the endpoint, over a network. -/
def plane (m : ResourceManager) (network : Network) : ControlPlane Wire where
  environmentId := m.environmentId
  showService group name := m.get network (m.serviceUrl group name)
  createService := m.createService network
  showComponent group environment name := m.get network (m.componentUrl group environment name)
  createComponent group environment name payload :=
    m.put network (m.componentUrl group environment name) payload.toJson

end ResourceManager

end DaprHosting
