import ReverseTunnel.Http.Header
import ReverseTunnel.Http.Uri

/-!
# Requests and responses

What passes between a visitor and a local service, without the framing of the connection.
-/

namespace ReverseTunnel.Http

/-- A request. -/
structure Request where
  method : String
  uri : Uri
  headers : Headers
  body : Bytes := []
  deriving DecidableEq, Repr

/-- A response. -/
structure Response where
  status : Nat
  headers : Headers
  body : Bytes := []
  deriving DecidableEq, Repr

/-- A response of one line of text. -/
def Response.text (status : Nat) (line : String) : Response where
  status := status
  headers := [("content-type", Text.Utf8.encode "text/plain; charset=utf-8")]
  body := Text.Utf8.encode line

/-- The host that a request is for: its first `Host` field, or else that of its target. -/
def Request.host? (r : Request) : Option String := (r.headers.text? "host").or r.uri.host?

/-- The target as path and query alone. A target that is only an authority stays. -/
def Uri.toOrigin (u : Uri) : Uri :=
  if u.scheme.isNone && u.authority.isSome then u
  else { u with scheme := none, authority := none }

end ReverseTunnel.Http
