import ReverseTunnel.Control.Line
import ReverseTunnel.Control.Rejection

/-!
# How a tunnel fails

Every way in which a client's tunnel can end other than by being closed, with its wording, and
whether opening the tunnel again may help.
-/

namespace ReverseTunnel

/-- Why a tunnel ends or does not begin. -/
inductive TunnelError where
  | tls (reason : String)
  | io (reason : String)
  | certificate (reason : String)
  | connectionClosed
  | protocol (reason : String)
  | multiplexing (reason : String)
  | http (reason : String)
  /-- A control message could not be read or written. -/
  | line (error : LineError)
  /-- The server turned the request down. -/
  | rejected (rejection : Rejection)
  /-- The server granted nothing that can be used. -/
  | invalidAnswer
  /-- The tunnel came back under another name or port. -/
  | resumeMismatch (reason : String)
  | invalidUrl (reason : String)
  | cancelled
  deriving DecidableEq, Repr

namespace TunnelError

/-- The wording of the error. -/
def message : TunnelError → String
  | .tls reason => "TLS error: " ++ reason
  | .io reason => "IO error: " ++ reason
  | .certificate reason => "Certificate error: " ++ reason
  | .connectionClosed => "Connection closed"
  | .protocol reason => "Protocol error: " ++ reason
  | .multiplexing reason => "Multiplexing error: " ++ reason
  | .http reason => "HTTP error: " ++ reason
  | .line error => "Codec error: " ++ error.message
  | .rejected rejection => rejection.message
  | .invalidAnswer => "invalid server response"
  | .resumeMismatch reason => "resume mismatch: " ++ reason
  | .invalidUrl reason => "Invalid control URL: " ++ reason
  | .cancelled => "Cancelled"

/-- Only a rejection can pass by itself, and only if its kind does. -/
def retryable : TunnelError → Bool
  | .rejected rejection => rejection.retryable
  | _ => false

end TunnelError

end ReverseTunnel
