import ReverseTunnel.Text.Basic

/-!
# Rejections

Why the server turns a control request down. The kind is for programs: it says whether trying
again may help. The message is for people.
-/

namespace ReverseTunnel

/-- The kind of a rejection. -/
inductive Rejection.Kind where
  /-- The message is malformed or too large. -/
  | protocol
  /-- A field of the request is not valid. -/
  | invalidRequest
  /-- The token is not accepted, or may not have what it asks for. -/
  | unauthorized
  /-- The token could not be looked up. -/
  | authError
  /-- The token has as many tunnels as it may have. -/
  | tooManyTunnels
  /-- The token has made too many requests lately. -/
  | rateLimited
  /-- The type of tunnel is not known. -/
  | unsupportedType
  /-- The requested port cannot be bound. -/
  | portUnavailable
  /-- No port of the range can be bound. -/
  | noPortsAvailable
  /-- A name could not be drawn or reserved. -/
  | allocationFailed
  /-- The name is taken by a live tunnel. -/
  | registrationFailed
  /-- A kind that this program does not know. -/
  | unknown
  deriving DecidableEq, Repr

namespace Rejection.Kind

/-- The tag that stands for the kind on the wire. -/
def tag : Kind → String
  | .protocol => "protocol"
  | .invalidRequest => "invalid_request"
  | .unauthorized => "unauthorized"
  | .authError => "auth_error"
  | .tooManyTunnels => "too_many_tunnels"
  | .rateLimited => "rate_limited"
  | .unsupportedType => "unsupported_type"
  | .portUnavailable => "port_unavailable"
  | .noPortsAvailable => "no_ports_available"
  | .allocationFailed => "allocation_failed"
  | .registrationFailed => "registration_failed"
  | .unknown => "unknown"

/-- Every kind. -/
def all : List Kind := [.protocol, .invalidRequest, .unauthorized, .authError, .tooManyTunnels,
  .rateLimited, .unsupportedType, .portUnavailable, .noPortsAvailable, .allocationFailed,
  .registrationFailed, .unknown]

/-- The kind that a tag stands for; a tag of no kind stands for `unknown`. -/
def ofTag (tag : String) : Kind := (all.find? (·.tag == tag)).getD .unknown

/-- A kind of rejection is read back from its tag, so no two kinds share one. -/
theorem ofTag_tag (kind : Kind) : ofTag kind.tag = kind := by cases kind <;> decide

/-- Whether the same request may be accepted later. -/
def retryable (kind : Kind) : Bool :=
  kind == .tooManyTunnels || kind == .rateLimited || kind == .portUnavailable

/-- The message of a rejection that has nothing more particular to say. -/
def message : Kind → String
  | .protocol => "invalid request"
  | .invalidRequest => "invalid request"
  | .unauthorized => "unauthorized"
  | .authError => "auth error"
  | .tooManyTunnels => "too many active tunnels"
  | .rateLimited => "rate limit exceeded"
  | .unsupportedType => "unsupported tunnel type"
  | .portUnavailable => "requested port unavailable"
  | .noPortsAvailable => "no ports available"
  | .allocationFailed => "failed to allocate id"
  | .registrationFailed => "failed to register tunnel"
  | .unknown => "unknown error"

/-- The kinds that a message alone tells. A draw that failed is not told by its message, and
the message that two kinds share tells the request. -/
def told : List Kind := [.tooManyTunnels, .rateLimited, .portUnavailable, .noPortsAvailable,
  .unauthorized, .authError, .unsupportedType, .registrationFailed, .invalidRequest]

/-- The kind of a rejection of which only the message is known; blanks around it do not count. -/
def ofMessage (message : String) : Kind :=
  (told.find? (·.message == Text.trim message)).getD .unknown

end Rejection.Kind

/-- A rejection: its kind and its message. -/
structure Rejection where
  kind : Rejection.Kind
  message : String
  deriving DecidableEq, Repr

namespace Rejection

/-- The rejection of a kind with the message of that kind. -/
def plain (kind : Kind) : Rejection := ⟨kind, kind.message⟩

/-- Whether the same request may be accepted later. -/
def retryable (r : Rejection) : Bool := r.kind.retryable

/-- The rejection that an answer carries: without a kind, the message tells it. -/
def ofParts (message : String) (kind? : Option Kind) : Rejection :=
  ⟨kind?.getD (Kind.ofMessage message), message⟩

end Rejection

end ReverseTunnel
