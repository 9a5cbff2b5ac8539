import ReverseTunnel.Control.Message
import ReverseTunnel.Control.Receive
import ReverseTunnel.TunnelError

/-!
# Asking for a tunnel

The client sends one request on a stream of its own and reads one answer. An answer that
rejects the request, or grants nothing, is a failure.
-/

namespace ReverseTunnel.Client

/-- What a client is granted. -/
inductive Grant where
  /-- A name, under which the tunnel has an id and a URL. -/
  | name (answer : HttpTunnelAnswer)
  /-- A port. -/
  | port (number : UInt16)
  deriving DecidableEq, Repr

/-- What is at the other end of a connection. -/
inductive Peer where
  /-- Nobody: the connection is closed. -/
  | gone
  /-- Somebody who closes the connection instead of answering. -/
  | leaves
  /-- Somebody who sends these bytes and ends the stream. -/
  | sends (bytes : Bytes)
  deriving DecidableEq, Repr

/-- The one answer among the bytes of a reply. -/
def readAnswer {α : Type} (parse? : Bytes → Option α) (reply : Bytes) :
    Except TunnelError α :=
  match Received.ofStream parse? reply true with
  | .message answer => .ok answer
  | .failed e => .error (.line e)
  | .ended | .pending => .error .connectionClosed

/-- The name that an answer grants, with an id and a URL. -/
def nameOf (answer : HttpTunnelAnswer) : Except TunnelError Grant := do
  let answer ← answer.result.mapError .rejected
  if Text.blank answer.id || Text.blank answer.url then .error .invalidAnswer
  else .ok (.name answer)

/-- The port that an answer grants. -/
def portOf (answer : TcpTunnelAnswer) : Except TunnelError Grant := do
  let answer ← answer.result.mapError .rejected
  if answer.remotePort = 0 then .error .invalidAnswer else .ok (.port answer.remotePort)

/-- What a reply to a request of this kind grants. -/
def grantOf (kind : TunnelKind) (reply : Bytes) : Except TunnelError Grant := do
  match kind with
  | .http => nameOf (← readAnswer HttpTunnelAnswer.parse? reply)
  | .tcp => portOf (← readAnswer TcpTunnelAnswer.parse? reply)

/-- The line of a request. -/
def requestLine (request : TunnelRequest) : Except LineError Bytes :=
  encodeLine maxMessageLength request.toJson

/-- Asks for a tunnel: the bytes that are sent, and what comes of it. -/
def requestTunnel (peer : Peer) (request : TunnelRequest) : Bytes × Except TunnelError Grant :=
  match peer, requestLine request with
  | .gone, _ => ([], .error .connectionClosed)
  | _, .error e => ([], .error (.line e))
  | .leaves, .ok line => (line, .error .connectionClosed)
  | .sends reply, .ok line => (line, grantOf request.kind reply)

end ReverseTunnel.Client
