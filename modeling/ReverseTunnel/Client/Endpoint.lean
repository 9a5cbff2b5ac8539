import ReverseTunnel.Http.Uri
import ReverseTunnel.Text.Quoted

/-!
# Where the server is

A client finds its server by a URL or by `host:port` alone. The scheme says whether the
connection is secured and gives the port if none is written.
-/

namespace ReverseTunnel

open Text

/-- Where a server is reached, and whether the connection is secured. -/
structure Endpoint where
  host : String
  port : UInt16
  tls : Bool
  deriving DecidableEq, Repr

/-- Why a URL gives no endpoint. -/
inductive EndpointError where
  /-- It is no URL. -/
  | malformed (url : String)
  | unsupportedScheme (scheme : String)
  | missingHost (url : String)
  deriving DecidableEq, Repr

/-- The wording of the error. -/
def EndpointError.reason : EndpointError → String
  | .malformed url => url ++ ": invalid uri"
  | .unsupportedScheme scheme => "unsupported scheme " ++ quoted scheme
  | .missingHost url => url ++ ": missing host"

namespace Endpoint

/-- The port of a scheme that leaves it out. -/
def defaultPort (tls : Bool) : UInt16 := if tls then 443 else 80

/-- Whether the connection is secured under a scheme; without one it is not. -/
def secured? : Option String → Except EndpointError Bool
  | none => .ok false
  | some scheme =>
    if scheme == "http" || scheme == "ws" then .ok false
    else if scheme == "https" || scheme == "wss" then .ok true
    else .error (.unsupportedScheme scheme)

/-- A host without the brackets around it. -/
def stripBrackets (host : String) : String :=
  String.ofList ((host.toList.dropWhile (· == '[')).reverse.dropWhile (· == ']')).reverse

/-- The endpoint that a URL gives. A port that is no port counts as absent. -/
def parse (url : String) : Except EndpointError Endpoint := do
  let url := trim url
  let uri ← (Http.Uri.parse? url).elim (.error (.malformed url)) .ok
  let tls ← secured? uri.scheme
  let host ← match uri.host? with
    | some host => if host.isEmpty then .error (.missingHost url) else .ok host
    | none => .error (.missingHost url)
  .ok ⟨stripBrackets host, uri.port?.getD (defaultPort tls), tls⟩

/-- The host as it stands in front of a port: in brackets if it has colons. -/
def bracketed (host : String) : String :=
  if host.toList.contains ':' then "[" ++ host ++ "]" else host

/-- The value of the `Host` field of requests to the server; the port of the scheme is left
out. -/
def authority (e : Endpoint) : String :=
  if e.port = defaultPort e.tls then bracketed e.host
  else bracketed e.host ++ ":" ++ toString e.port.toNat

/-- How an endpoint is shown in messages. -/
def describe (e : Endpoint) : String :=
  "ControlEndpoint \x7b host: " ++ quoted e.host ++ ", port: " ++ toString e.port.toNat
    ++ ", tls: " ++ toString e.tls ++ " \x7d"

end Endpoint

end ReverseTunnel
