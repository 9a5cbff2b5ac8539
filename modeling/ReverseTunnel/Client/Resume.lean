import ReverseTunnel.Control.Message
import ReverseTunnel.Text.Split

/-!
# Coming back under the same name

A client that has lost its connection asks for what it had before. If its request left the name
to the server, it now asks for the name that it was given; a port is always asked for again.
-/

namespace ReverseTunnel.Client

open Text

/-- The name of a tunnel. -/
structure HttpIdentity where
  id : String
  url : String
  deriving DecidableEq, Repr

/-- The host of a URL, with its port: what stands behind `://`, before path, query and
fragment. -/
def hostOfUrl (url : String) : String :=
  let cs := match splitAtMark "://".toList url.toList with
    | some (_, rest) => rest
    | none => url.toList
  String.ofList (cs.takeWhile fun c => c != '/' && c != '?' && c != '#')

/-- The request for a name that was held before. -/
def HttpIdentity.resume (previous : HttpIdentity) (request : HttpTunnelRequest) :
    HttpTunnelRequest :=
  if blank request.subdomain && blank request.domain then
    { request with domain := hostOfUrl previous.url }
  else request

/-- The request for a port that was held before. -/
def resumePort (previous : UInt16) (request : TcpTunnelRequest) : TcpTunnelRequest :=
  { request with remotePort := previous }

end ReverseTunnel.Client
