import ReverseTunnel.Client.Endpoint

/-!
# The local service

What a tunnel leads to: a port on this machine, a host and port, or the URL of a web service.
-/

namespace ReverseTunnel

open Text

/-- A port above 0 as it is written in an address. -/
def servicePort? (s : String) : Option UInt16 := (port? s).filter (· > 0)

/-- Whether a text is a port by itself: digits alone. -/
def isPortAlone (s : String) : Bool :=
  !s.isEmpty && s.toList.all isDigit && (servicePort? s).isSome

/-- An address for a connection: a port alone is one on this machine. -/
def localAddress (s : String) : String :=
  let address := trim s
  if isPortAlone address then "127.0.0.1:" ++ address else address

/-- A web service: whether connections to it are secured, its host, and its port. -/
structure Service where
  tls : Bool
  host : String
  port : UInt16
  deriving DecidableEq, Repr

/-- Why a text names no service. -/
inductive ServiceError where
  | empty | malformed | missingPort | missingHost | invalidPort | unsupportedScheme
  | fragment | query | path | userinfo
  deriving DecidableEq, Repr

namespace ServiceError

/-- The wording of the reason. -/
def reason : ServiceError → String
  | .empty => "empty upstream"
  | .malformed => "malformed address"
  | .missingPort => "missing port"
  | .missingHost => "missing host"
  | .invalidPort => "invalid port"
  | .unsupportedScheme => "unsupported scheme"
  | .fragment => "fragment not supported"
  | .query => "query not supported"
  | .path => "path not supported"
  | .userinfo => "userinfo not supported"

/-- The wording of the error for the text that was given. -/
def message (e : ServiceError) (input : String) : String :=
  "invalid upstream " ++ quoted input ++ ": " ++ e.reason

end ServiceError

namespace Service

/-- The scheme of the service. -/
def scheme (s : Service) : String := if s.tls then "https" else "http"

/-- Host and port, as a connection is made to them. -/
def address (s : Service) : String :=
  Endpoint.bracketed s.host ++ ":" ++ toString s.port.toNat

/-- The service as a URL. -/
def print (s : Service) : String := s.scheme ++ "://" ++ s.address

/-- Splits `host:port`, the port being optional, and the host in brackets if it has colons. -/
def splitPort? (cs : List Char) : Option (List Char × Option (List Char)) :=
  match cs with
  | '[' :: rest => do
    let (host, after) ← splitFirst ']' rest
    match after with
    | [] => some (host, none)
    | ':' :: port => some (host, some port)
    | _ => none
  | _ =>
    match splitFirst ':' cs with
    | none => some (cs, none)
    | some (host, port) => if port.contains ':' then none else some (host, some port)

/-- The port that the digits give. -/
def readPort (digits : List Char) : Except ServiceError UInt16 :=
  (servicePort? (String.ofList digits)).elim (.error .invalidPort) .ok

/-- The service at `host:port`. -/
def parseAddress (cs : List Char) : Except ServiceError Service := do
  let (host, port?) ← (splitPort? cs).elim (.error .malformed) .ok
  let digits ← port?.elim (.error .missingPort) .ok
  if host.isEmpty then .error .missingHost
  else .ok ⟨false, String.ofList host, ← readPort digits⟩

/-- The parts around the first separator, the second empty if there is none. -/
def cut (sep : Char) (cs : List Char) : List Char × List Char := (splitFirst sep cs).getD (cs, [])

/-- The service at a URL, given behind its scheme: nothing but host, port and a slash. -/
def parseUrl (tls : Bool) (cs : List Char) : Except ServiceError Service := do
  let (rest, fragment) := cut '#' cs
  if !fragment.isEmpty then .error .fragment
  let (rest, query) := cut '?' rest
  if !query.isEmpty then .error .query
  let authority := rest.takeWhile (· != '/')
  let path := rest.dropWhile (· != '/')
  if !path.isEmpty && path != ['/'] then .error .path
  if authority.contains '@' then .error .userinfo
  let (host, port?) ← (splitPort? authority).elim (.error .malformed) .ok
  if host.isEmpty then .error .missingHost
  let port ← match port? with
    | some digits => readPort digits
    | none => .ok (Endpoint.defaultPort tls)
  .ok ⟨tls, String.ofList host, port⟩

/-- The service that a text names. -/
def parse (input : String) : Except ServiceError Service :=
  let text := trim input
  if text.isEmpty then .error .empty
  else if isPortAlone text then (readPort text.toList).map (⟨false, "127.0.0.1", ·⟩)
  else match splitAtMark "://".toList text.toList with
    | none => parseAddress text.toList
    | some (scheme, rest) =>
      let scheme := lower (String.ofList scheme)
      if scheme == "http" then parseUrl false rest
      else if scheme == "https" then parseUrl true rest
      else .error .unsupportedScheme

/-- The host in an address, as a certificate names it: without the port, unless the last colon
stands inside brackets, and without brackets. -/
def hostOfAddress (address : String) : String :=
  let host := match splitLast ':' address.toList with
    | some (host, port) => if port.contains ']' then address.toList else host
    | none => address.toList
  Endpoint.stripBrackets (String.ofList host)

end Service

end ReverseTunnel
