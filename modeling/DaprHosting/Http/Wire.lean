import DaprHosting.ControlPlane.Basic
import DaprHosting.Text.Utf8
import DaprHosting.Url.Basic

/-!
# Requests and what becomes of them

A request is sent over a wire, which keeps the requests sent and holds the deliveries still to
come. Each request that is sent takes the next delivery: nothing at all, a response whose body
breaks off, or a whole response. A request whose token cannot stand in a header, or whose URL the
network does not carry, is not sent and takes no delivery.

A request is kept as it is handed to the HTTP client. When its URL has a user name and a password,
the client takes them off the URL and sends them as a second value of the authorization header;
here they stay in the URL.
-/

namespace DaprHosting.Http

/-! ## 1. Requests -/

/-- The methods in use. -/
inductive Method where
  | get | put
deriving DecidableEq, Repr

/-- The word for a method. -/
def Method.name : Method → String
  | .get => "GET"
  | .put => "PUT"

/-- A request; one with a body sends it as JSON. -/
structure Request where
  method : Method
  url : Url
  token : String
  body : Option Json

/-- The value of the authorization header; that of a user in the URL is not counted in. -/
def Request.authorization (r : Request) : String := "Bearer " ++ r.token

/-- A byte that may stand in a header. -/
def isHeaderByte (b : UInt8) : Bool := (32 ≤ b && b ≠ 127) || b = 9

/-- A text that may stand in a header. -/
def isHeaderText (s : String) : Bool := (Text.utf8 s.toList).all isHeaderByte

/-! ## 2. The wire -/

/-- What becomes of a request that is sent. -/
inductive Delivery where
  | dropped
  | truncated (status : Nat)
  | complete (status : Nat) (body : List UInt8)
deriving DecidableEq, Repr

/-- The deliveries to come, and the requests sent so far. -/
structure Wire where
  pending : List Delivery
  sent : List Request := []

instance : Inhabited Wire := ⟨⟨[], []⟩⟩

/-- Which URLs a network carries requests to. -/
structure Network where
  carries : Url → Bool

/-- A network that carries nothing. -/
def Network.unreachable : Network := ⟨fun _ => false⟩

/-- A response: its status, and its body when that could be read to the end. -/
structure Response where
  status : Nat
  body : Option String
deriving DecidableEq, Repr

/-- The response that a delivery is, if it is one. -/
def Delivery.response? : Delivery → Option Response
  | .dropped => none
  | .truncated status => some ⟨status, none⟩
  | .complete status body => some ⟨status, some (Text.ofUtf8Lossy body)⟩

/-- The request was not answered. -/
def noResponse : ClientError := .network "no response"

/-- Send a request and wait for its response. -/
def exchange (network : Network) (r : Request) : Action Wire ClientError Response := fun w =>
  if isHeaderText r.token && network.carries r.url then
    match w.pending with
    | [] => ⟨.error noResponse, { w with sent := w.sent ++ [r] }, []⟩
    | d :: rest =>
      let w := ⟨rest, w.sent ++ [r]⟩
      match d.response? with
      | some response => ⟨.ok response, w, []⟩
      | none => ⟨.error noResponse, w, []⟩
  else ⟨.error (.network "the request cannot be sent"), w, []⟩

end DaprHosting.Http
