import ReverseTunnel.Domain
import ReverseTunnel.Http.Hop
import ReverseTunnel.Http.Message
import ReverseTunnel.Http.Upgrade
import ReverseTunnel.Http.Visitor
import ReverseTunnel.Server.Registry

/-!
# The way from visitors to tunnels

Every request that reaches the public listener is either that of a client, or one for a tunnel.
The tunnel's policy decides over a visitor's request before anything is sent to the client, and
a request that asks for what the policy hides is answered as if there were no tunnel.

## Main definitions

* `check`: what a policy says about a request.
* `prepare`: the request as the client gets it.
* `route`: what becomes of a request.
* `finish`: the response as the visitor gets it.
-/

namespace ReverseTunnel.Gateway

open Http

/-- What the operator decides about visitors. -/
structure Settings where
  tunnelDomain : String
  /-- Whether the headers of a proxy in front tell the address of a visitor. -/
  trustsProxy : Bool := false
  /-- Whether the public listener is encrypted. -/
  tls : Bool := false
  deriving DecidableEq, Repr

/-! ### Answers of the server's own -/

/-- There is no such tunnel, or none that shows itself. -/
def notFound : Response := .text 404 "tunnel not found"

/-- The address may not visit. -/
def forbidden : Response := .text 403 "forbidden"

/-- The visitor must show the credential of the tunnel. -/
def unauthorized : Response :=
  let response := Response.text 401 "unauthorized"
  let challenge := Text.Utf8.encode "Basic realm=\"sluice\""
  { response with headers := response.headers ++ [("www-authenticate", challenge)] }

/-- The client did not give a response. -/
def badGateway : Response := .text 502 "bad gateway"

/-! ### Access -/

/-- What a policy says about a request: nothing, or the answer to it. The address is looked at
first, then what is asked for, then the credential. -/
def check (policy : Policy) (address : Option Ip) (request : Request) :
    Except Response Unit :=
  if policy.hasAddressRules && !(address.any policy.allowsAddress) then .error forbidden
  else if !policy.allowsMethod request.method || !policy.allowsPath request.uri.path then
    .error notFound
  else
    match policy.credential with
    | none => .ok ()
    | some credential =>
      if credential.verify (request.headers.get? "authorization") then .ok ()
      else .error unauthorized

/-! ### What the client gets -/

/-- The fields by which proxies tell whom they speak for. -/
def forwardingFields : List String := ["forwarded", "x-forwarded-for", "x-forwarded-host",
  "x-forwarded-proto", "x-forwarded-port", "x-real-ip"]

/-- The fields with a text under a name, if a field can hold it. -/
def setText (headers : Headers) (name text : String) : Headers :=
  let value := Text.Utf8.encode text
  if value.all isValueByte then headers.set name value else headers

/-- The fields with the server's own word on whom it speaks for. -/
def setForwarding (headers : Headers) (address : Ip) (host : String) (tls : Bool) : Headers :=
  let headers := headers.removeAll forwardingFields
  let headers := setText headers "x-forwarded-for" address.print
  let headers := setText headers "x-forwarded-host" host
  setText headers "x-forwarded-proto" (if tls then "https" else "http")

/-- The fields without the credential that was checked. -/
def dropCredential (policy : Policy) (headers : Headers) : Headers :=
  if policy.credential.isSome then headers.remove "authorization" else headers

/-- The fields that ask for another protocol, as the server asks for it. -/
def setUpgrade (headers : Headers) : Option Bytes → Headers
  | none => headers
  | some protocol =>
    (headers.set "connection" (Text.Utf8.encode "upgrade")).set "upgrade" protocol

/-- The fields that pass through, before the tunnel's own changes. -/
def passedHeaders (s : Settings) (policy : Policy) (peer : Ip) (address : Option Ip)
    (host : String) (headers : Headers) : Headers :=
  let headers := dropCredential policy headers
  let upgrade := headers.upgrade?
  let headers :=
    if s.trustsProxy then headers
    else setForwarding headers (address.getD peer) host s.tls
  setUpgrade (headers.stripHop upgrade.isSome) upgrade

/-- The request as the client gets it. -/
def prepare (s : Settings) (policy : Policy) (peer : Ip) (address : Option Ip) (host : String)
    (request : Request) : Request :=
  let headers := passedHeaders s policy peer address host request.headers
  { request with uri := request.uri.toOrigin, headers := policy.transformRequest headers }

/-! ### Routing -/

/-- What becomes of a request. `σ` names the sessions of clients. -/
inductive Fate (σ : Type) where
  /-- The connection goes on as that of a client. -/
  | control
  /-- The server answers by itself. -/
  | answered (response : Response)
  /-- The request goes to the client of a tunnel. -/
  | forwarded (tunnel : Tunnel σ) (request : Request) (upgrades : Bool)

variable {σ : Type}

/-- The tunnel that a host names. -/
def tunnel? (s : Settings) (registry : Registry σ) (host : String) : Option (Tunnel σ) :=
  (Domain.label? host s.tunnelDomain).bind registry.get?

/-- What becomes of a request for a tunnel. -/
def visit (s : Settings) (tunnel : Tunnel σ) (host : String) (peer : Ip) (request : Request) :
    Fate σ :=
  let address := Visitor.address? s.trustsProxy request.headers peer
  match check tunnel.policy address request with
  | .error response => .answered response
  | .ok () =>
    .forwarded tunnel (prepare s tunnel.policy peer address host request)
      request.headers.upgrade?.isSome

/-- What becomes of a request. -/
def route (s : Settings) (registry : Registry σ) (peer : Ip) (request : Request) : Fate σ :=
  if isControlUpgrade request.method request.uri request.headers then .control
  else
    match request.host? with
    | none => .answered notFound
    | some host =>
      match tunnel? s registry host with
      | none => .answered notFound
      | some tunnel => visit s tunnel host peer request

/-- The response as the visitor gets it. One that goes on with another protocol, as was asked
for, keeps the fields that say so. -/
def finish (policy : Policy) (upgrades : Bool) : Option Response → Response
  | none => badGateway
  | some response =>
    let headers :=
      if response.status = 101 ∧ upgrades then response.headers
      else response.headers.stripHop false
    { response with headers := policy.transformResponse headers }

end ReverseTunnel.Gateway
